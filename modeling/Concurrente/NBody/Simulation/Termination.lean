import Concurrente.NBody.Simulation.Arguments
import Concurrente.NBody.Simulation.QuietCollisions
import Concurrente.NBody.Simulation.UpdatePhase

/-!
# When a simulation ends

The loop of `simulate` ends when the time is over or when one body is left, or
with the program when a process cannot broadcast its bodies.  Negative times are
refused and a zero duration of a state is not, and then the time stands still:
bodies do not move, and what is left of the loop is the collision phase of the
same places over and over.
-/

namespace Concurrente.NBody

open Library

variable {α : Type} [RealArithmetic α] {size : Nat}

/-! ## The loop -/

/-- What the loop of `simulate` changes. -/
structure Simulated (α : Type) (size : Nat) where
  currentTime : α
  totalActiveBodiesCount : Int
  universes : Fin size → Universe α

namespace Simulation

/-- The sum of the counters of all processes. -/
def activeTotal (universes : Fin size → Universe α) : Int :=
  ∑ rank, (universes rank).activeBodiesCount

/-- One iteration of the loop of `simulate`. -/
def iteration (deltaTime : α) (state : Simulated α size) : Simulated α size :=
  let universes := statePositions deltaTime
    (stateAccelerations (stateCollisions state.universes))
  { currentTime := state.currentTime + deltaTime
    totalActiveBodiesCount := activeTotal universes
    universes }

/-- The condition of the loop of `simulate`. -/
def continues (maxTime : α) (state : Simulated α size) : Bool :=
  state.currentTime < maxTime ∧ 1 < state.totalActiveBodiesCount

/-- `Simulation::simulate`, if it ends within a number of iterations. -/
def simulate (deltaTime maxTime : α) : Nat → Simulated α size → Option (Simulated α size)
  | 0, state => if continues maxTime state then none else some state
  | iterations + 1, state =>
      if continues maxTime state then
        simulate deltaTime maxTime iterations (iteration deltaTime state)
      else some state

/-- The state before the loop. -/
def started (totalBodiesCount : Int) (universes : Fin size → Universe α) :
    Simulated α size :=
  { currentTime := 0, totalActiveBodiesCount := totalBodiesCount, universes }

/-- One iteration, unless a process ends the program in it. -/
def tryIteration (deltaTime : α) (state : Simulated α size) :
    Option (Simulated α size) := do
  let collided ← tryStateCollisions state.universes
  let accelerated ← tryStateAccelerations collided
  let universes := statePositions deltaTime accelerated
  return { currentTime := state.currentTime + deltaTime
           totalActiveBodiesCount := activeTotal universes
           universes }

/-- The state after a number of iterations, if the loop performs that many. -/
def performed (deltaTime maxTime : α) :
    Nat → Simulated α size → Option (Simulated α size)
  | 0, state => some state
  | iterations + 1, state =>
      if continues maxTime state then
        (tryIteration deltaTime state).bind (performed deltaTime maxTime iterations)
      else none

/-- The loop performs finitely many iterations. -/
def Ends (deltaTime maxTime : α) (state : Simulated α size) : Prop :=
  ∃ iterations, performed deltaTime maxTime iterations state = none

theorem tryIteration_eq_some {deltaTime : α} {state later : Simulated α size}
    (made : tryIteration deltaTime state = some later) :
    later = iteration deltaTime state := by
  obtain ⟨collided, collisions, rest⟩ := Option.bind_eq_some_iff.mp made
  obtain ⟨accelerated, accelerations, built⟩ := Option.bind_eq_some_iff.mp rest
  cases built
  rw [iteration, tryStateCollisions_eq_some collisions,
    tryStateAccelerations_eq_some accelerations]

/-- The iterations that are performed are those of the loop without failures. -/
theorem performed_eq_some {deltaTime maxTime : α} {count : Nat}
    {state later : Simulated α size}
    (made : performed deltaTime maxTime count state = some later) :
    later = (iteration deltaTime)^[count] state ∧
      ∀ earlier < count,
        continues maxTime ((iteration deltaTime)^[earlier] state) = true := by
  induction count generalizing state with
  | zero =>
      cases made
      exact ⟨rfl, fun earlier before => absurd before (Nat.not_lt_zero earlier)⟩
  | succ count ih =>
      rw [performed] at made
      split at made
      next more =>
        obtain ⟨next, iterated, rest⟩ := Option.bind_eq_some_iff.mp made
        cases tryIteration_eq_some iterated
        obtain ⟨same, passed⟩ := ih rest
        refine ⟨same, fun earlier before => ?_⟩
        cases earlier with
        | zero => exact more
        | succ earlier => exact passed earlier (Nat.lt_of_succ_lt_succ before)
      next => cases made

/-- The loop ends where its condition fails. -/
theorem ends_of_stops {deltaTime maxTime : α} {state : Simulated α size}
    {count : Nat}
    (stops : continues maxTime ((iteration deltaTime)^[count] state) = false) :
    Ends deltaTime maxTime state := by
  refine ⟨count + 1, ?_⟩
  cases made : performed deltaTime maxTime (count + 1) state with
  | none => rfl
  | some later =>
      have more := (performed_eq_some made).2 count (Nat.lt_succ_self count)
      rw [stops] at more
      cases more

theorem currentTime_iterate (deltaTime : α) (state : Simulated α size)
    (count : Nat) :
    ((iteration deltaTime)^[count] state).currentTime =
      state.currentTime + count * deltaTime := by
  induction count with
  | zero => simp
  | succ count ih =>
      rw [Function.iterate_succ_apply', iteration]
      simp only [ih, Nat.cast_succ]
      ring

end Simulation

/-! ## Collisions do not look at accelerations -/

namespace Body

/-- A body without its acceleration. -/
abbrev resting (body : Body α) : Body α := body.withAcceleration 0

theorem absorb_resting (body : Body α) (otherMass otherRadius : α)
    (otherVelocity : RealVector α) :
    body.resting.absorb otherMass otherRadius otherVelocity =
      ((body.absorb otherMass otherRadius otherVelocity).1,
        (body.absorb otherMass otherRadius otherVelocity).2.resting) := by
  by_cases heavier : otherMass ≤ body.mass
  · simp [absorb, withAcceleration, mergeVelocities, addRadiuses, heavier]
  · simp [absorb, withAcceleration, heavier]

theorem absorbBody_resting (body other : Body α) :
    body.resting.absorbBody other.resting =
      ((body.absorbBody other).1, (body.absorbBody other).2.1.resting,
        (body.absorbBody other).2.2.resting) := by
  have absorbed : body.resting.absorb other.resting.mass other.resting.radius
      other.resting.velocity = _ :=
    absorb_resting body other.mass other.radius other.velocity
  simp only [absorbBody, absorbed]
  split <;> rfl

end Body

namespace Universe

/-- A universe without the accelerations of its bodies. -/
def resting (self : Universe α) : Universe α :=
  { self with bodies := self.bodies.map Body.resting }

theorem checkPair_resting (index : Nat) (self : Universe α) (otherIndex : Nat) :
    checkPair index self.resting otherIndex =
      (checkPair index self otherIndex).resting := by
  unfold checkPair
  simp only [resting, List.getElem?_map]
  cases self.bodies[index]? with
  | none => rfl
  | some body =>
      cases self.bodies[otherIndex]? with
      | none => rfl
      | some other =>
          simp only [Option.map_some, Body.absorbBody_resting]
          change (if index = otherIndex || !other.isActive then _ else
            if body.checkCollision other.radius other.position then _ else _) = _
          split
          · rfl
          split
          · by_cases absorbed : (body.absorbBody other).1 = true
            · simp [absorbed, List.map_set]
            · simp [absorbed, List.map_set]
          · rfl

theorem checkBody_resting (self : Universe α) (index : Nat) :
    checkBody self.resting index = (checkBody self index).resting := by
  have active : (self.resting.bodies[index]?).any Body.isActive =
      (self.bodies[index]?).any Body.isActive := by
    rw [resting, List.getElem?_map]
    cases self.bodies[index]? <;> rfl
  have length : self.resting.bodies.length = self.bodies.length :=
    List.length_map ..
  unfold checkBody
  rw [active, length]
  split
  · exact List.foldl_hom resting fun state other => checkPair_resting index state other
  · rfl

theorem checkCollisions_resting (self : Universe α) :
    self.resting.checkCollisions = self.checkCollisions.resting := by
  have length : self.resting.bodies.length = self.bodies.length :=
    List.length_map ..
  unfold checkCollisions
  rw [length]
  exact List.foldl_hom resting checkBody_resting

theorem serializeCollisionData_resting (self : Universe α) :
    self.resting.serializeCollisionData = self.serializeCollisionData := by
  unfold serializeCollisionData resting
  rw [List.filter_map, List.flatMap_map]
  rfl

theorem checkSerialized_resting (serializedBodies : List α) (rank otherRank : Nat)
    (body : Body α) :
    checkSerialized serializedBodies rank otherRank body.resting =
      ((checkSerialized serializedBodies rank otherRank body).1,
        (checkSerialized serializedBodies rank otherRank body).2.resting) := by
  unfold checkSerialized
  change (if body.isActive then
    ((offsets serializedBodies.length bodyCollisionDataSize).find? fun offset =>
      body.checkCollision (serializedBodies.getD (offset + collisionRadius) 0)
        (collisionPosition serializedBodies offset)).elim (false, body.resting) _
    else _) = _
  split
  · cases (offsets serializedBodies.length bodyCollisionDataSize).find? _ with
    | none => rfl
    | some offset =>
        simp only [Option.elim_some, collideBodies, Body.absorb_resting]
        change (if body.equalMasses _ && _ then _ else _) = _
        split
        · rfl
        · split <;> rfl
  · rfl

theorem checkReceivedCollisions_resting (self : Universe α)
    (serializedBodies : List α) (rank otherRank : Nat) :
    self.resting.checkReceivedCollisions serializedBodies rank otherRank =
      (self.checkReceivedCollisions serializedBodies rank otherRank).resting := by
  have checked : self.resting.bodies.map
        (checkSerialized serializedBodies rank otherRank) =
      (self.bodies.map (checkSerialized serializedBodies rank otherRank)).map
        fun result => (result.1, result.2.resting) := by
    rw [resting, List.map_map, List.map_map]
    exact List.map_congr_left fun body _ =>
      checkSerialized_resting serializedBodies rank otherRank body
  unfold checkReceivedCollisions
  rw [checked]
  simp [resting, List.countP_map, Function.comp_def]

end Universe

namespace Simulation

/-- Universes without the accelerations of their bodies. -/
def resting (universes : Fin size → Universe α) : Fin size → Universe α :=
  fun rank => (universes rank).resting

theorem checkCollisions_resting (universes : Fin size → Universe α) :
    (fun process => (resting universes process).checkCollisions) =
      resting fun process => (universes process).checkCollisions := by
  funext process
  exact Universe.checkCollisions_resting (universes process)

theorem collisionTurn_resting (universes : Fin size → Universe α)
    (rank : Fin size) :
    collisionTurn (resting universes) rank =
      resting (collisionTurn universes rank) := by
  funext process
  by_cases own : process = rank
  · simp [broadcastRound, resting, own]
  · simp only [broadcastRound, resting, if_neg own,
      Universe.serializeCollisionData_resting,
      Universe.checkReceivedCollisions_resting]

theorem stateCollisions_resting (universes : Fin size → Universe α) :
    stateCollisions (resting universes) = resting (stateCollisions universes) := by
  unfold stateCollisions
  rw [checkCollisions_resting]
  exact List.foldl_hom resting collisionTurn_resting

/-- Without time nothing but accelerations changes. -/
theorem resting_statePositions (universes : Fin size → Universe α) :
    resting (statePositions 0 (stateAccelerations universes)) =
      resting universes := by
  have still : ∀ vector other : RealVector α, vector + other * (0 : α) = vector := by
    intro vector other
    ext <;> simp
  have same : ∀ (total : Body α → RealVector α) (body : Body α),
      (updatedBody 0 total body).resting = body.resting := by
    intro total body
    unfold updatedBody
    split
    · simp only [Body.resting, Body.withAcceleration, Body.updateVelocity,
        Body.updatePosition, still]
    · rfl
  funext rank
  have bodies : (statePositions 0 (stateAccelerations universes) rank).bodies.map
      Body.resting = (universes rank).bodies.map Body.resting := by
    rw [bodies_statePositions, List.map_map]
    exact List.map_congr_left fun body _ => same _ body
  have count : (statePositions 0 (stateAccelerations universes)
      rank).activeBodiesCount = (universes rank).activeBodiesCount := by
    rw [stateAccelerations_eq]
    rfl
  simp only [resting, Universe.resting, bodies, count]

/-! ## Broadcasts of universes that stay as they are -/

/-- Every process can broadcast its active bodies. -/
def Sends (dataSize : Nat) (universes : Fin size → Universe α) : Prop :=
  ∀ rank, (universes rank).Reserves dataSize ∧ (universes rank).Broadcasts dataSize

theorem sends_resting_iff {dataSize : Nat} {universes : Fin size → Universe α} :
    Sends dataSize (resting universes) ↔ Sends dataSize universes := by
  have count : ∀ rank, (resting universes rank).bodies.countP Body.isActive =
      (universes rank).bodies.countP Body.isActive := by
    intro rank
    rw [resting, Universe.resting, List.countP_map]
    rfl
  simp only [Sends, Universe.Broadcasts, count]
  rfl

/-- A cycle of rounds that keep what the broadcasts need. -/
theorem tryRounds_isSome {dataSize : Nat} {serialize : Universe α → List α}
    {turn : (Fin size → Universe α) → Fin size → Fin size → Universe α}
    (length : ∀ self : Universe α, (serialize self).length =
      self.bodies.countP Body.isActive * dataSize)
    {invariant : (Fin size → Universe α) → Prop}
    (sends : ∀ universes, invariant universes → Sends dataSize universes)
    (kept : ∀ universes rank, invariant universes → invariant (turn universes rank))
    {universes : Fin size → Universe α} (first : invariant universes)
    (ranks : List (Fin size)) :
    (ranks.foldlM (tryRound dataSize serialize turn) universes).isSome := by
  induction ranks generalizing universes with
  | nil => rfl
  | cons rank ranks ih =>
      obtain ⟨reserves, broadcasts⟩ := sends universes first rank
      have made : tryRound dataSize serialize turn universes rank =
          some (turn universes rank) := by
        apply if_pos
        rw [length]
        exact ⟨reserves, broadcasts⟩
      rw [List.foldlM_cons, made]
      exact ih (kept universes rank first)

/-- Bodies that do not overlap are broadcast as they are. -/
theorem tryStateCollisions_isSome {universes still : Fin size → Universe α}
    (clear : Clear still) (sends : Sends Universe.bodyCollisionDataSize still)
    (same : resting universes = resting still) :
    (tryStateCollisions universes).isSome := by
  obtain ⟨own, others⟩ := clear_iff.mp clear
  have quiet : (fun process => (still process).checkCollisions) = still :=
    funext fun process => Universe.checkCollisions_eq_self_iff.mpr (own process)
  refine @tryRounds_isSome α _ size _ _ _ Universe.length_serializeCollisionData
    (fun universes => resting universes = resting still) ?_ ?_ _ ?_ _
  · intro universes same
    rw [← sends_resting_iff, same, sends_resting_iff]
    exact sends
  · intro universes rank same
    rw [← collisionTurn_resting, same, collisionTurn_resting,
      collisionTurn_eq_self_iff.mpr (others rank)]
  · rw [← checkCollisions_resting, same, checkCollisions_resting, quiet]

/-- Accelerations do not change what is broadcast. -/
theorem tryStateAccelerations_isSome {universes : Fin size → Universe α}
    (sends : Sends Universe.bodyAccelerationDataSize universes) :
    (tryStateAccelerations universes).isSome := by
  refine @tryRounds_isSome α _ size _ _ _ Universe.length_serializeAccelerationData
    (fun later => ∃ acceleration : Fin size → Body α → RealVector α,
      later = fun process =>
        (universes process).accelerated (acceleration process)) ?_ ?_ _ ?_ _
  · rintro later ⟨acceleration, rfl⟩ rank
    obtain ⟨reserves, broadcasts⟩ := sends rank
    refine ⟨reserves, ?_⟩
    unfold Universe.Broadcasts
    rw [List.countP_eq_length_filter, Universe.filter_accelerated, List.length_map,
      ← List.countP_eq_length_filter]
    exact broadcasts
  · rintro later rank ⟨acceleration, rfl⟩
    exact ⟨_, accelerationRounds universes acceleration [rank]⟩
  · exact ⟨fun process => (universes process).field,
      funext fun process => Universe.updateAccelerations_eq (universes process)⟩

/-! ## When the loop ends -/

/-- The time of an iteration adds up to any time. -/
theorem ends_of_positive [Archimedean α] {deltaTime : α} (positive : 0 < deltaTime)
    (maxTime : α) (state : Simulated α size) : Ends deltaTime maxTime state := by
  obtain ⟨count, enough⟩ := Archimedean.arch (maxTime - state.currentTime) positive
  rw [nsmul_eq_mul] at enough
  have late : ¬ state.currentTime + count * deltaTime < maxTime := by
    rw [not_lt]
    linarith
  apply @ends_of_stops _ _ _ _ _ _ count
  simp [continues, currentTime_iterate, late]

/-- Universes whose bodies do not overlap and are all counted, and which every
process can broadcast. -/
structure Spread (totalBodiesCount : Int) (universes : Fin size → Universe α) :
    Prop where
  clear : Clear universes
  counted : activeTotal universes = totalBodiesCount
  sends : Sends Universe.bodyCollisionDataSize universes

/-- A state of a loop in which no time passes. -/
structure Still (universes : Fin size → Universe α) (state : Simulated α size) :
    Prop where
  currentTime : state.currentTime = 0
  total : state.totalActiveBodiesCount = activeTotal universes
  same : resting state.universes = resting universes

theorem Spread.sends_accelerations {totalBodiesCount : Int}
    {universes : Fin size → Universe α} (spread : Spread totalBodiesCount universes) :
    Sends Universe.bodyAccelerationDataSize universes := by
  intro rank
  obtain ⟨⟨nonneg, _, product⟩, _, length⟩ := spread.sends rank
  simp only [Universe.bodyCollisionDataSize, Universe.Reserves, Universe.Broadcasts,
    Universe.bodyAccelerationDataSize, InSigned] at product length ⊢
  omega

/-- Without time and collisions an iteration leaves everything where it is. -/
theorem Still.next {totalBodiesCount : Int} {universes : Fin size → Universe α}
    {state : Simulated α size} (spread : Spread totalBodiesCount universes)
    (still : Still universes state) :
    ∃ later, tryIteration 0 state = some later ∧ Still universes later := by
  have quiet : resting (stateCollisions state.universes) = resting universes := by
    rw [← stateCollisions_resting, still.same, stateCollisions_resting,
      stateCollisions_eq_self_iff.mpr spread.clear]
  obtain ⟨collided, collisions⟩ := Option.isSome_iff_exists.mp
    (tryStateCollisions_isSome spread.clear spread.sends still.same)
  obtain rfl := tryStateCollisions_eq_some collisions
  obtain ⟨accelerated, accelerations⟩ := Option.isSome_iff_exists.mp
    (tryStateAccelerations_isSome (sends_resting_iff.mp
      (quiet ▸ sends_resting_iff.mpr spread.sends_accelerations)))
  obtain rfl := tryStateAccelerations_eq_some accelerations
  have same : resting (statePositions 0
      (stateAccelerations (stateCollisions state.universes))) =
        resting universes := by
    rw [resting_statePositions, quiet]
  refine ⟨iteration 0 state, ?_, ?_⟩
  · rw [tryIteration, collisions]
    simp only [Option.bind_eq_bind, Option.bind_some, accelerations]
    rfl
  · refine ⟨?_, ?_, same⟩
    · change state.currentTime + 0 = 0
      rw [still.currentTime, add_zero]
    · change activeTotal (resting (statePositions 0 _)) = activeTotal (resting _)
      rw [same]

/-- Then the loop goes on for ever. -/
theorem not_ends_of_spread {maxTime : α} {totalBodiesCount : Int}
    {universes : Fin size → Universe α} (spread : Spread totalBodiesCount universes)
    (time : 0 < maxTime) (more : 1 < totalBodiesCount) :
    ¬ Ends 0 maxTime (started totalBodiesCount universes) := by
  have goes : ∀ (count : Nat) (state : Simulated α size), Still universes state →
      ∃ later, performed 0 maxTime count state = some later := by
    intro count
    induction count with
    | zero => exact fun state _ => ⟨state, rfl⟩
    | succ count ih =>
        intro state still
        obtain ⟨next, iterated, stillNext⟩ := still.next spread
        obtain ⟨later, made⟩ := ih next stillNext
        refine ⟨later, ?_⟩
        have goesOn : continues maxTime state = true := by
          simp [continues, still.currentTime, still.total, spread.counted, time,
            more]
        rw [performed, if_pos goesOn, iterated, Option.bind_some, made]
  rintro ⟨count, none⟩
  obtain ⟨later, made⟩ := goes count (started totalBodiesCount universes)
    ⟨rfl, spread.counted.symm, rfl⟩
  rw [none] at made
  cases made

theorem catchInvalid_eq_ok {β : Type} {what : Text} {result : Except StdException β}
    {value : β} : catchInvalid what result = .ok value ↔ result = .ok value := by
  unfold catchInvalid
  split <;> simp

/-- The times that are accepted are not negative. -/
theorem analyzeArguments_nonneg {format : NumberFormat α} {argv : List Text}
    {size : Nat} {arguments : Arguments α}
    (accepted : analyzeArguments format argv size = .ok arguments) :
    0 ≤ arguments.deltaTime ∧ 0 ≤ arguments.maxTime := by
  unfold analyzeArguments at accepted
  by_cases few : argv.length < 4
  · rw [if_pos few] at accepted
    cases accepted
  by_cases help : argv.tail.any fun argument =>
      (find "help".toList argument).isSome
  · rw [if_neg few] at accepted
    dsimp only at accepted
    rw [if_pos help] at accepted
    cases accepted
  rw [if_neg few] at accepted
  dsimp only at accepted
  rw [if_neg help] at accepted
  obtain ⟨⟨deltaTime, maxTime⟩, times, built⟩ := bind_eq_ok.mp accepted
  have nonneg : 0 ≤ deltaTime ∧ 0 ≤ maxTime := by
    obtain ⟨delta, _, later⟩ := bind_eq_ok.mp (catchInvalid_eq_ok.mp times)
    obtain ⟨limit, _, checked⟩ := bind_eq_ok.mp later
    split at checked
    next => cases checked
    next notNegative =>
      cases checked
      simpa only [not_or, not_lt] using notNegative
  have same : arguments.deltaTime = deltaTime ∧ arguments.maxTime = maxTime := by
    split at built
    next count _ =>
      by_cases insufficient : toInt count.toNat < size
      · rw [if_pos insufficient] at built
        cases built
      · rw [if_neg insufficient] at built
        obtain ⟨limits, _, result⟩ := bind_eq_ok.mp built
        cases result
        exact ⟨rfl, rfl⟩
    next =>
      cases built
      exact ⟨rfl, rfl⟩
    next => cases built
  rwa [same.1, same.2]

/-- With accepted arguments the simulation ends when time passes or there is
none, or when there is at most one body; bodies that do not overlap keep it going
in every other case. -/
theorem simulate_ends_iff [Archimedean α] {format : NumberFormat α}
    {argv : List Text} {arguments : Arguments α}
    (accepted : analyzeArguments format argv size = .ok arguments)
    (totalBodiesCount : Int) (universes : Fin size → Universe α) :
    (0 < arguments.deltaTime ∨ arguments.maxTime = 0 ∨ totalBodiesCount ≤ 1 →
        Ends arguments.deltaTime arguments.maxTime
          (started totalBodiesCount universes)) ∧
      (Spread totalBodiesCount universes →
        Ends arguments.deltaTime arguments.maxTime
            (started totalBodiesCount universes) →
          0 < arguments.deltaTime ∨ arguments.maxTime = 0 ∨
            totalBodiesCount ≤ 1) := by
  obtain ⟨nonneg, nonneg'⟩ := analyzeArguments_nonneg accepted
  constructor
  · rintro (positive | none | few)
    · exact ends_of_positive positive _ _
    · apply @ends_of_stops _ _ _ _ _ _ 0
      simp [continues, started, none]
    · apply @ends_of_stops _ _ _ _ _ _ 0
      have stays : ¬ 1 < totalBodiesCount := not_lt.mpr few
      simp [continues, started, stays]
  · intro spread ends
    by_contra no
    simp only [not_or, not_lt, not_le] at no
    obtain ⟨still, some, more⟩ := no
    have zero : arguments.deltaTime = 0 := le_antisymm still nonneg
    rw [zero] at ends
    exact not_ends_of_spread spread (lt_of_le_of_ne nonneg' (Ne.symm some)) more ends

/-! ## Two bodies that stay apart -/

/-- The command line of a universe file, with a duration of each state. -/
def commandLine (deltaTime : Text) : List Text :=
  ["nbody".toList, "universe.tsv".toList, deltaTime, "10".toList]

theorem analyzeArguments_commandLine {text : Text} {deltaTime : ℝ}
    (noHelp : find "help".toList text = none)
    (parsed : sampleFormat.stod text = .ok deltaTime) (nonneg : 0 ≤ deltaTime) :
    analyzeArguments sampleFormat (commandLine text) 1 =
      .ok ⟨deltaTime, 10, .universeFile "universe.tsv".toList⟩ := by
  have ten : (scanNumeral "10".toList).map Numeral.value = some 10 := by decide
  have limit : sampleFormat.stod "10".toList = .ok (10 : ℝ) :=
    (sampleFormat_stod ten).trans (by norm_num)
  have help : ¬ ((commandLine text).tail.any fun argument =>
      (find "help".toList argument).isSome) = true := by
    have file : find "help".toList "universe.tsv".toList = none := by decide
    have time : find "help".toList "10".toList = none := by decide
    simp only [commandLine, List.tail_cons, List.any_cons, List.any_nil, noHelp,
      file, time]
    decide
  have accepted : ¬ (deltaTime < 0 ∨ (10 : ℝ) < 0) := by
    rw [not_or, not_lt, not_lt]
    exact ⟨nonneg, by norm_num⟩
  have notNumber : stoul "universe.tsv".toList =
      .error (.invalidArgument "stoul".toList) := by decide
  unfold analyzeArguments
  rw [if_neg (by simp [commandLine])]
  dsimp only
  rw [if_neg help]
  simp only [commandLine, List.getD_cons_succ, List.getD_cons_zero, parsed, limit,
    notNumber]
  change (catchInvalid _ (if deltaTime < 0 ∨ (10 : ℝ) < 0 then _ else _) >>= _) = _
  rw [if_neg accepted]
  rfl

/-- Two bodies that do not overlap. -/
noncomputable def apart : Universe ℝ :=
  { activeBodiesCount := 2
    bodies :=
      [⟨1, 1, ⟨0, 0, 0⟩, ⟨0, 0, 0⟩, ⟨0, 0, 0⟩⟩,
        ⟨1, 1, ⟨(10 : ℕ), 0, 0⟩, ⟨0, 0, 0⟩, ⟨0, 0, 0⟩⟩] }

theorem stateCollisions_apart :
    stateCollisions (fun _ : Fin 1 => apart) = fun _ => apart := by
  have idle : Universe.checkPair 0 apart 0 = apart ∧
      Universe.checkPair 0 apart 1 = apart ∧
      Universe.checkPair 1 apart 0 = apart ∧
      Universe.checkPair 1 apart 1 = apart := by
    norm_num [Universe.checkPair, apart, Body.isActive, Body.checkCollision,
      RealVector.getMagnitude, RealArithmetic.sqrt]
  have row : ∀ index, Universe.checkPair index apart 0 = apart →
      Universe.checkPair index apart 1 = apart →
      Universe.checkBody apart index = apart := by
    intro index first second
    unfold Universe.checkBody
    split
    · change Universe.checkPair index (Universe.checkPair index apart 0) 1 = apart
      rw [first, second]
    · rfl
  have still : apart.checkCollisions = apart := by
    change Universe.checkBody (Universe.checkBody apart 0) 1 = apart
    rw [row 0 idle.1 idle.2.1, row 1 idle.2.2.1 idle.2.2.2]
  funext rank
  obtain rfl : rank = 0 := Subsingleton.elim _ _
  simp [stateCollisions, List.finRange, broadcastRound, still]

theorem spread_apart : Spread 2 fun _ : Fin 1 => apart := by
  have most : apart.bodies.countP Body.isActive ≤ 2 := List.countP_le_length
  refine ⟨stateCollisions_eq_self_iff.mp stateCollisions_apart, ?_, fun _ => ⟨?_, ?_⟩⟩
  · simp [activeTotal, apart]
  · constructor
    · decide
    · decide
  · simp only [Universe.Broadcasts, Universe.bodyCollisionDataSize, InSigned]
    omega

theorem stod_zero : sampleFormat.stod "0".toList = .ok (0 : ℝ) := by
  have zero : (scanNumeral "0".toList).map Numeral.value = some 0 := by decide
  exact (sampleFormat_stod zero).trans (by norm_num)

theorem simulate_ends_commandLine :
    Ends 1 10 (started 2 fun _ : Fin 1 => apart) ∧
      ¬ Ends 0 10 (started 2 fun _ : Fin 1 => apart) := by
  have one : (scanNumeral "1".toList).map Numeral.value = some 1 := by decide
  have parsed : sampleFormat.stod "1".toList = .ok (1 : ℝ) :=
    (sampleFormat_stod one).trans (by norm_num)
  constructor
  · exact (simulate_ends_iff (analyzeArguments_commandLine (by decide) parsed
      (by norm_num)) 2 fun _ : Fin 1 => apart).1 (.inl one_pos)
  · intro ends
    have condition := (simulate_ends_iff (analyzeArguments_commandLine (by decide)
      stod_zero le_rfl) 2 fun _ : Fin 1 => apart).2 spread_apart ends
    norm_num at condition

/-- A duration of zero is accepted. -/
theorem simulate_runs_on :
    analyzeArguments sampleFormat (commandLine "0".toList) 1 =
        .ok ⟨0, 10, .universeFile "universe.tsv".toList⟩ ∧
      ¬ Ends 0 10 (started 2 fun _ : Fin 1 => apart) := by
  constructor
  · exact analyzeArguments_commandLine (by decide) stod_zero le_rfl
  · exact not_ends_of_spread spread_apart (by norm_num) (by decide)

end Simulation

end Concurrente.NBody
