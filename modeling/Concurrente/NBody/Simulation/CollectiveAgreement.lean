import Concurrente.Library.LockstepRuns
import Concurrente.NBody.Simulation.Processes

/-!
# Agreement of the processes

The variables that decide about the collective operations of a process are
replicated, so processes that start alike issue the same operations, unless one
of them fails.  A process can fail over a line that only it reads, over its own
counter of bodies, and over the output file.
-/

namespace Concurrente.NBody

open Library

section

variable {α : Type} [RealArithmetic α] {size : Nat}

/-- What a process needs to get to its next operation. -/
def Process.Prepared (self : Process α size) : Prop :=
  match self.control.phase with
  | .count .distances rank =>
      self.ownUniverse.bodies ≠ [] ∧
        (rank = self.rank →
          self.ownUniverse.Broadcasts Universe.bodyDistanceDataSize)
  | .count cycle rank =>
      rank = self.rank → self.ownUniverse.Reserves cycle.dataSize ∧
        self.ownUniverse.Broadcasts cycle.dataSize
  | .saved rank => rank = self.rank → self.opens = true
  | .distanceMean | .velocityMean | .velocityStdev =>
      0 ≤ self.ownUniverse.activeBodiesCount
  | _ => True

theorem Process.length_serialized (self : Process α size) (cycle : Cycle) :
    (self.serialized cycle).length =
      self.ownUniverse.bodies.countP Body.isActive * cycle.dataSize := by
  cases cycle with
  | collisions => exact self.ownUniverse.length_serializeCollisionData
  | accelerations => exact self.ownUniverse.length_serializeAccelerationData
  | distances =>
      have fixed : ∀ body : Body α,
          body.serializePositionData.length = Universe.bodyDistanceDataSize :=
        fun _ => rfl
      rw [List.countP_eq_length_filter]
      exact length_flatMap_encode fixed _

theorem Process.announce_isSome {self : Process α size} {cycle : Cycle}
    {rank : Fin size}
    (counted : rank = self.rank → self.ownUniverse.Broadcasts cycle.dataSize) :
    (self.announce cycle rank).isSome := by
  unfold announce
  split
  next turn =>
    have inside : InSigned 32 (self.serialized cycle).length := by
      rw [length_serialized]
      exact counted turn
    rw [if_pos inside]
    rfl
  next => rfl

omit [RealArithmetic α] in
theorem Universe.getMyVelocities_isSome {self : Universe α}
    (counted : 0 ≤ self.activeBodiesCount) : self.getMyVelocities.isSome := by
  rw [getMyVelocities, if_neg (not_lt.mpr counted)]
  rfl

theorem Universe.aggregateOwnDistances_isSome {bodies : List (Body α)}
    (some : bodies ≠ []) : (aggregateOwnDistances bodies).isSome := by
  rw [aggregateOwnDistances_eq some]
  rfl

theorem Process.prepare_isSome {self : Process α size}
    (prepared : self.Prepared) : self.prepare.isSome := by
  unfold Prepared at prepared
  unfold prepare
  cases phase : self.control.phase with
  | count cycle rank =>
      rw [phase] at prepared
      cases cycle with
      | collisions | accelerations =>
          dsimp only at prepared ⊢
          rw [if_neg fun ⟨turn, refused⟩ => refused (prepared turn).1]
          exact announce_isSome fun turn => (prepared turn).2
      | distances =>
          obtain ⟨present, counted⟩ := prepared
          obtain ⟨distances, collected⟩ := Option.isSome_iff_exists.mp
            (Universe.aggregateOwnDistances_isSome present)
          dsimp only
          rw [collected, Option.bind_some]
          exact announce_isSome counted
  | values cycle rank =>
      dsimp only
      split <;> rfl
  | saved rank =>
      rw [phase] at prepared
      dsimp only at prepared ⊢
      rw [if_neg fun ⟨turn, closed⟩ => by simp [prepared turn] at closed]
      rfl
  | distanceMean | velocityMean | velocityStdev =>
      rw [phase] at prepared
      dsimp only at prepared ⊢
      rw [Option.isSome_map]
      exact Universe.getMyVelocities_isSome prepared
  | activeBodies | distanceStdev | ended => rfl

variable [NeZero size]

/-- The control after the start, whatever the bodies of the process are. -/
theorem Process.control_start (rank : Fin size) (opens : Bool)
    (started : Started α) :
    (start rank opens (.ok started)).control =
      Control.test
        { deltaTime := started.deltaTime
          maxTime := started.maxTime
          currentTime := 0
          totalActiveBodiesCount := started.totalBodiesCount
          phase := .ended } :=
  control_enter _

variable {format : NumberFormat α} {files : Files} {argv : List Text}
  (draw : List α → Nat → Nat → Body α) (opens : Fin size → Bool)

/-- Processes that start alike have the same control. -/
theorem Simulation.processes_control
    (alike : UniverseAlike format files argv size) :
    ∃ first : Control α size, ∀ rank,
      (processes format files argv draw opens rank).control = first := by
  rcases startSimulation_alike draw alike with none | ⟨deltaTime, maxTime, total, all⟩
  · refine ⟨⟨0, 0, 0, 0, .ended⟩, fun rank => ?_⟩
    rw [processes]
    cases result : startSimulation format files argv draw size rank with
    | error exception => rfl
    | ok started => exact (none rank rank.isLt started result).elim
  · refine ⟨Control.test ⟨deltaTime, maxTime, 0, total, .ended⟩, fun rank => ?_⟩
    obtain ⟨ownUniverse, result⟩ := all rank rank.isLt
    rw [processes, result]
    exact Process.control_start _ _ _

variable {draw opens}

open CollectiveProgram in
/-- In every run in which no process fails on its own, the processes issue the
same operations, and none waits for one that another does not issue. -/
theorem Simulation.collectives_agree
    {members : Members (Fin size) (Process α size) (Collective size) (Payload α)}
    (alike : UniverseAlike format files argv size)
    (run : program.Reaches Process.Prepared
      (processes format files argv draw opens) members) :
    ((∀ rank : Fin size,
        (startSimulation format files argv draw size rank).isOk = true) ∨
      ∀ rank : Fin size,
        (startSimulation format files argv draw size rank).isOk = false) ∧
    (∀ one other : Fin size, (members one).completed = (members other).completed →
      (members one).state.control = (members other).state.control) ∧
    (∀ one other : Fin size,
      (members one).issued.length ≤ (members other).issued.length →
        (members one).operations <+: (members other).operations) ∧
    ((∀ rank after, ¬ program.Step rank members after) →
      ∀ one other, program.Ended (members one) ∧
        (members one).operations = (members other).operations) := by
  obtain ⟨first, same⟩ := processes_control draw opens alike
  obtain ⟨outcomes, aligned⟩ := run.aligned same
    fun _ _ prepared _ => Process.prepare_isSome prepared
  refine ⟨?_, ?_, ?_, ?_⟩
  · rcases startSimulation_alike draw alike with none | ⟨_, _, _, all⟩
    · right
      intro rank
      rw [Bool.eq_false_iff]
      intro ok
      obtain ⟨started, result⟩ := isOk_iff.mp ok
      exact none rank rank.isLt started result
    · left
      intro rank
      obtain ⟨ownUniverse, result⟩ := all rank rank.isLt
      exact isOk_iff.mpr ⟨_, result⟩
  · intro one other level
    exact aligned.control_eq level
  · intro one other shorter
    exact aligned.operations_prefix shorter
  · intro stuck one other
    exact aligned.ended stuck one other

end

/-! ## Processes of one body each -/

section

variable {α : Type} [RealArithmetic α] {size : Nat}

namespace Universe

/-- One body, which the counter counts at least as long as it is active. -/
structure Sole (state : Universe α) : Prop where
  single : state.bodies.length = 1
  active : (state.bodies.countP Body.isActive : Int) ≤ state.activeBodiesCount
  counted : state.activeBodiesCount ≤ 1

variable {self later : Universe α}

theorem Sole.of_isActive (sole : self.Sole)
    (count : later.activeBodiesCount = self.activeBodiesCount)
    (same : later.bodies.map Body.isActive = self.bodies.map Body.isActive) :
    Sole later := by
  have length := congrArg List.length same
  have active := congrArg (List.countP id) same
  rw [List.length_map, List.length_map] at length
  simp only [List.countP_map, Function.id_comp] at active
  refine ⟨length.trans sole.single, ?_, ?_⟩
  · rw [active, count]
    exact sole.active
  · rw [count]
    exact sole.counted

theorem Sole.checkCollisions (sole : self.Sole) : self.checkCollisions = self := by
  have alone : checkPair 0 self 0 = self := by
    unfold checkPair
    split
    · simp
    · rfl
  have row : checkBody self 0 = self := by
    unfold checkBody
    rw [sole.single]
    split
    · exact alone
    · rfl
  unfold Universe.checkCollisions
  rw [sole.single]
  exact row

theorem isActive_foldl {ι : Type} {step : Body α → ι → Body α}
    (kept : ∀ body index, (step body index).isActive = body.isActive)
    (indices : List ι) (body : Body α) :
    (indices.foldl step body).isActive = body.isActive := by
  induction indices generalizing body with
  | nil => rfl
  | cons index indices ih => exact (ih (step body index)).trans (kept body index)

theorem isActive_updateAcceleration (body : Body α) (otherMass : α)
    (otherPosition : RealVector α) :
    (body.updateAcceleration otherMass otherPosition).isActive = body.isActive := by
  unfold Body.updateAcceleration
  dsimp only
  split <;> rfl

theorem Sole.updateAccelerations (sole : self.Sole) :
    self.updateAccelerations.Sole := by
  refine sole.of_isActive (by rfl) ?_
  have step : ∀ (index : Nat) (body : Body α) (other : Nat),
      (updateLocalAcceleration (resetAccelerations self.bodies) index body
        other).isActive = body.isActive := by
    intro index body other
    unfold updateLocalAcceleration
    split
    · split
      · rfl
      · exact isActive_updateAcceleration _ _ _
    · rfl
  apply List.ext_getElem
  · simp [Universe.updateAccelerations, updateLocalAccelerations,
      resetAccelerations]
  · intro index inside inside'
    simp only [Universe.updateAccelerations, updateLocalAccelerations,
      List.getElem_map, List.getElem_mapIdx]
    have within : index < self.bodies.length := by simpa using inside'
    have listed : index < (resetAccelerations self.bodies).length := by
      simpa [resetAccelerations] using within
    have reset : (resetAccelerations self.bodies)[index].isActive =
        self.bodies[index].isActive := by
      simp only [resetAccelerations, List.getElem_map]
      split <;> rfl
    split
    · rw [isActive_foldl (step index)]
      exact reset
    · exact reset

theorem Sole.updateReceivedAccelerations (sole : self.Sole)
    (serializedBodies : List α) :
    (self.updateReceivedAccelerations serializedBodies).Sole := by
  refine sole.of_isActive (by rfl) ?_
  rw [Universe.updateReceivedAccelerations, List.map_map]
  apply List.map_congr_left
  intro body _
  dsimp only [Function.comp_apply]
  split
  · exact isActive_foldl (fun body _ => isActive_updateAcceleration body _ _) _ body
  · rfl

theorem Sole.updateVelocitiesAndPositions (sole : self.Sole) (deltaTime : α) :
    (self.updateVelocitiesAndPositions deltaTime).Sole := by
  refine sole.of_isActive (by rfl) ?_
  rw [Universe.updateVelocitiesAndPositions, List.map_map]
  apply List.map_congr_left
  intro body _
  dsimp only [Function.comp_apply]
  split <;> rfl

/-- A body that is taken from the counter was active and is not any more. -/
theorem checkSerialized_lost {serializedBodies : List α} {rank otherRank : Nat}
    {body : Body α} :
    checkSerialized serializedBodies rank otherRank body = (false, body) ∨
      body.isActive = true ∧
        ((checkSerialized serializedBodies rank otherRank body).1 = true →
          (checkSerialized serializedBodies rank otherRank body).2.isActive =
            false) := by
  unfold checkSerialized
  cases active : body.isActive with
  | false => exact .inl rfl
  | true =>
      have gone : body.deactivate.isActive = false := by
        have positive : 0 < body.mass := by simpa [Body.isActive] using active
        simp [Body.isActive, Body.deactivate, positive.le]
      rw [if_pos rfl]
      cases (offsets serializedBodies.length bodyCollisionDataSize).find? _ with
      | none => exact .inl rfl
      | some offset =>
          refine .inr ⟨rfl, fun lost => ?_⟩
          simp only [Option.elim_some, collideBodies] at lost ⊢
          split
          · exact gone
          next unequal =>
            rw [if_neg unequal] at lost
            unfold Body.absorb at lost ⊢
            by_cases heavier : serializedBodies.getD (offset + collisionMass) 0 ≤
                body.mass
            · rw [if_pos heavier] at lost
              simp at lost
            · rw [if_neg heavier]
              exact gone

theorem Sole.checkReceivedCollisions (sole : self.Sole) (serializedBodies : List α)
    (rank otherRank : Nat) :
    (self.checkReceivedCollisions serializedBodies rank otherRank).Sole := by
  obtain ⟨count, bodies⟩ := self
  obtain ⟨single, active, counted⟩ := sole
  obtain ⟨body, rfl⟩ := List.length_eq_one_iff.mp single
  rcases @checkSerialized_lost _ _ serializedBodies rank otherRank body with
    kept | ⟨wasActive, lost⟩
  · simpa [Universe.checkReceivedCollisions, kept] using
      (⟨single, active, counted⟩ : Sole ⟨count, [body]⟩)
  · cases result : checkSerialized serializedBodies rank otherRank body with
    | mk gone after =>
        rw [result] at lost
        have one : (1 : Int) ≤ count := by simpa [wasActive] using active
        cases gone with
        | true =>
            refine ⟨rfl, ?_, ?_⟩
            · simpa [Universe.checkReceivedCollisions, result, lost rfl] using one
            · simp only [Universe.checkReceivedCollisions, List.map_singleton,
                result, List.countP_singleton]
              dsimp only at counted
              simp
              omega
        | false =>
            refine ⟨rfl, ?_, ?_⟩
            · have few : ([after].countP Body.isActive : Int) ≤ 1 := by
                exact_mod_cast List.countP_le_length
              simpa [Universe.checkReceivedCollisions, result] using few.trans one
            · simpa [Universe.checkReceivedCollisions, result] using counted

end Universe

namespace Process

/-- A process of one body gets to every operation, if it can open its file. -/
theorem prepared_of_sole {self : Process α size} (sole : self.ownUniverse.Sole)
    (opens : self.opens = true) : self.Prepared := by
  have count : 0 ≤ self.ownUniverse.activeBodiesCount :=
    (Int.natCast_nonneg _).trans sole.active
  have few : self.ownUniverse.bodies.countP Body.isActive ≤ 1 :=
    List.countP_le_length.trans sole.single.le
  have reserves : ∀ dataSize ≤ 8, self.ownUniverse.Reserves dataSize := by
    intro dataSize bound
    have most := sole.counted
    refine ⟨count, ?_, ?_⟩
    · have product := mul_nonneg count (Int.natCast_nonneg dataSize)
      omega
    · norm_num
      nlinarith
  have broadcasts : ∀ dataSize ≤ 8, self.ownUniverse.Broadcasts dataSize := by
    intro dataSize bound
    unfold Universe.Broadcasts InSigned
    have small : self.ownUniverse.bodies.countP Body.isActive * dataSize ≤ 1 * 8 :=
      Nat.mul_le_mul few bound
    omega
  unfold Prepared
  cases self.control.phase with
  | count cycle rank =>
      cases cycle with
      | collisions | accelerations =>
          exact fun _ => ⟨reserves _ (by decide), broadcasts _ (by decide)⟩
      | distances =>
          refine ⟨fun none => ?_, fun _ => broadcasts _ (by decide)⟩
          have single := sole.single
          rw [none] at single
          cases single
  | saved rank => exact fun _ => opens
  | distanceMean | velocityMean | velocityStdev => exact count
  | _ => trivial

/-- What keeps a process prepared. -/
def Steady (self : Process α size) : Prop :=
  self.ownUniverse.Sole ∧ self.opens = true

theorem Steady.receive {self : Process α size} (steady : self.Steady)
    (received : Payload α) : (self.receive received).Steady := by
  obtain ⟨sole, opens⟩ := steady
  unfold Process.receive
  cases self.control.phase with
  | values cycle rank =>
      cases cycle with
      | collisions =>
          dsimp only
          split
          · exact ⟨sole, opens⟩
          · exact ⟨sole.checkReceivedCollisions _ _ _, opens⟩
      | accelerations =>
          dsimp only
          split
          · exact ⟨sole, opens⟩
          · exact ⟨sole.updateReceivedAccelerations _, opens⟩
      | distances =>
          dsimp only
          split <;> exact ⟨sole, opens⟩
  | _ => exact ⟨sole, opens⟩

variable [NeZero size]

theorem Steady.enter {self : Process α size} (steady : self.Steady) :
    self.enter.Steady := by
  obtain ⟨sole, opens⟩ := steady
  unfold Process.enter
  cases self.control.phase with
  | count cycle rank =>
      cases cycle with
      | collisions =>
          dsimp only
          split
          · exact ⟨by rwa [sole.checkCollisions], opens⟩
          · exact ⟨sole, opens⟩
      | accelerations =>
          dsimp only
          split
          · exact ⟨sole.updateAccelerations, opens⟩
          · exact ⟨sole, opens⟩
      | distances =>
          dsimp only
          split <;> exact ⟨sole, opens⟩
  | activeBodies => exact ⟨sole.updateVelocitiesAndPositions _, opens⟩
  | _ => exact ⟨sole, opens⟩

theorem Steady.resume {self : Process α size} (steady : self.Steady)
    (received : Payload α) : (self.resume received).Steady := by
  have later := steady.receive received
  exact Steady.enter ⟨later.1, later.2⟩

end Process

end

/-! ## Two processes that read one file -/

/-- A file with two bodies, of which the second has a given mass. -/
def sampleContent (mass : Text) : Text :=
  "2\n1\t1\t0\t0\t0\t0\t0\t0\n".toList ++ mass ++
    "\t1\t0\t0\t0\t0\t0\t0\n".toList

def sampleFiles (mass : Text) : Files := fun _ => some (sampleContent mass)

def sampleArguments (maxTime : Text) : List Text :=
  ["nbody".toList, "universe.tsv".toList, "1".toList, maxTime]

theorem readable_iff {line : Text} :
    Readable sampleFormat line ↔ 8 ≤ (streamLines '\t' line).length ∧
      ∀ cell ∈ (streamLines '\t' line).take 8, (scanNumeral cell).isSome = true := by
  have number : ∀ cell, (sampleFormat.stod cell).isOk = true ↔
      (scanNumeral cell).isSome = true := by
    intro cell
    rw [sampleFormat]
    dsimp only
    cases scanNumeral cell with
    | none => simp [Except.isOk, Except.toBool]
    | some numeral => simp [Except.isOk, Except.toBool]
  simp only [Readable, number]

instance (line : Text) : Decidable (Readable sampleFormat line) :=
  decidable_of_iff _ readable_iff.symm

theorem sample_analyzed {maxTime : Text} {limit : Nat}
    (scanned : (scanNumeral maxTime).map Numeral.value = some (limit : Int))
    (noHelp : find "help".toList maxTime = none) :
    analyzeArguments sampleFormat (sampleArguments maxTime) 2 =
      .ok ⟨1, limit, .universeFile "universe.tsv".toList⟩ := by
  have enough : ¬ (sampleArguments maxTime).length < 4 := by
    simp [sampleArguments]
  have help : ¬ ((sampleArguments maxTime).tail.any fun argument =>
      (find "help".toList argument).isSome) = true := by
    have file : find "help".toList "universe.tsv".toList = none := by decide
    have time : find "help".toList "1".toList = none := by decide
    simp only [sampleArguments, List.tail_cons, List.any_cons, List.any_nil, file,
      time, noHelp]
    decide
  have one : (scanNumeral "1".toList).map Numeral.value = some 1 := by
    decide +kernel
  have name : stoul "universe.tsv".toList =
      .error (.invalidArgument "stoul".toList) := by decide +kernel
  have accepted : ¬ (((1 : Int) : ℝ) < 0 ∨ ((limit : Int) : ℝ) < 0) := by
    rw [not_or, not_lt, not_lt]
    constructor
    · norm_num
    · positivity
  unfold analyzeArguments
  rw [if_neg enough, if_neg help]
  simp only [sampleArguments, List.getD_cons_succ, List.getD_cons_zero,
    sampleFormat_stod one, sampleFormat_stod scanned, name, bind, Except.bind]
  rw [if_neg accepted, Int.cast_one, Int.cast_natCast]
  rfl

/-- The bodies that are drawn, if any were. -/
noncomputable def sampleDraw : List ℝ → Nat → Nat → Body ℝ :=
  fun _ _ _ => ⟨1, 1, 0, 0, 0⟩

/-- A process that can read its line has one body. -/
theorem sample_started {maxTime mass : Text} {limit : Nat} {rank : Fin 2}
    (scanned : (scanNumeral maxTime).map Numeral.value = some (limit : Int))
    (noHelp : find "help".toList maxTime = none)
    (total : stoul ((streamLines '\n' (sampleContent mass)).headD []) = .ok 2)
    (single : (blockLines (sampleContent mass) 2 rank).length = 1)
    (readable : ∀ line ∈ blockLines (sampleContent mass) 2 rank,
      Readable sampleFormat line) :
    ∃ ownUniverse : Universe ℝ, ownUniverse.Sole ∧
      Simulation.startSimulation sampleFormat (sampleFiles mass)
        (sampleArguments maxTime) sampleDraw 2 rank =
          .ok ⟨1, limit, 2, ownUniverse⟩ := by
  obtain ⟨bodies, read⟩ := isOk_iff.mp ((loadBodies_blockLines total).mpr readable)
  have one : bodies.length = 1 := by
    rw [length_loadBodies read, ← single, blockLines, total]
    rfl
  have loaded : Universe.loadUniverse sampleFormat (sampleFiles mass)
      "universe.tsv".toList rank 2 =
        .ok ((2 : UInt64).toNat, ⟨toInt bodies.length, bodies⟩) :=
    loadUniverse_eq_ok.mpr ⟨_, _, bodies, rfl, total, rfl, by decide, read, rfl⟩
  have two : toInt (2 : UInt64).toNat = 2 := by decide
  refine ⟨⟨toInt bodies.length, bodies⟩, ⟨one, ?_, ?_⟩, ?_⟩
  · have few := @List.countP_le_length _ Body.isActive bodies
    rw [one] at few ⊢
    change _ ≤ (1 : Int)
    exact_mod_cast few
  · rw [one]
    change (1 : Int) ≤ 1
    exact le_rfl
  · rw [Simulation.startSimulation, sample_analyzed scanned noHelp, ← two]
    exact bind_eq_ok.mpr ⟨_, rfl, bind_eq_ok.mpr ⟨_, loaded, rfl⟩⟩

local instance twoProcesses : NeZero 2 := ⟨two_ne_zero⟩

/-- The processes that read a file with a given second mass. -/
noncomputable def sampleProcesses (maxTime mass : Text) : Fin 2 → Process ℝ 2 :=
  Simulation.processes sampleFormat (sampleFiles mass) (sampleArguments maxTime)
    sampleDraw fun _ => true

/-- Where the control of a process begins. -/
theorem sampleProcesses_steady {maxTime mass : Text} {limit : Nat} {rank : Fin 2}
    (scanned : (scanNumeral maxTime).map Numeral.value = some (limit : Int))
    (noHelp : find "help".toList maxTime = none)
    (total : stoul ((streamLines '\n' (sampleContent mass)).headD []) = .ok 2)
    (single : (blockLines (sampleContent mass) 2 rank).length = 1)
    (readable : ∀ line ∈ blockLines (sampleContent mass) 2 rank,
      Readable sampleFormat line) :
    (sampleProcesses maxTime mass rank).Steady ∧
      (sampleProcesses maxTime mass rank).control =
        Control.test ⟨1, (limit : ℝ), 0, 2, .ended⟩ := by
  obtain ⟨ownUniverse, sole, started⟩ :=
    sample_started scanned noHelp total single readable
  rw [sampleProcesses, Simulation.processes, started]
  constructor
  · unfold Process.start
    exact Process.Steady.enter ⟨sole, rfl⟩
  · exact Process.control_start _ _ _

/-- A process with a line it cannot read has left the program. -/
theorem sampleProcesses_ended {maxTime mass : Text} {limit : Nat} {rank : Fin 2}
    (scanned : (scanNumeral maxTime).map Numeral.value = some (limit : Int))
    (noHelp : find "help".toList maxTime = none)
    (unreadable : ∃ line ∈ blockLines (sampleContent mass) 2 rank,
      ¬ Readable sampleFormat line) :
    (sampleProcesses maxTime mass rank).control.phase = .ended := by
  rw [sampleProcesses, Simulation.processes, Simulation.startSimulation,
    sample_analyzed scanned noHelp]
  cases loaded : Universe.loadUniverse sampleFormat (sampleFiles mass)
      "universe.tsv".toList rank 2 with
  | error exception =>
      simp only [Except.mapError, bind, Except.bind, loaded]
      rfl
  | ok result =>
      obtain ⟨_, count, bodies, found, parsed, same, _, read, _⟩ :=
        loadUniverse_eq_ok.mp loaded
      cases found
      rw [same] at read
      obtain ⟨line, member, refused⟩ := unreadable
      exact (refused ((loadBodies_blockLines parsed).mp
        (isOk_iff.mpr ⟨_, read⟩) line member)).elim

open CollectiveProgram

/-! ### A whole iteration -/

/-- The phases of one iteration of two processes. -/
def iterationPhases : List (Phase 2) :=
  [.count .collisions 0, .values .collisions 0,
    .count .collisions 1, .values .collisions 1,
    .count .accelerations 0, .values .accelerations 0,
    .count .accelerations 1, .values .accelerations 1, .activeBodies]

/-- Their operations. -/
def iterationOperations : List (Collective 2) :=
  [.bcast 0, .bcast 0, .bcast 1, .bcast 1, .bcast 0, .bcast 0, .bcast 1, .bcast 1,
    .allReduce]

theorem operation_iterationPhases {index : Nat}
    (inside : index < iterationPhases.length)
    (listed : index < iterationOperations.length) :
    Phase.operation iterationPhases[index] = some iterationOperations[index] := by
  change index < 9 at inside
  interval_cases index <;> rfl

theorem advance_iterationPhases {index : Nat}
    (inside : index + 1 < iterationPhases.length) (payload : Payload ℝ) :
    Control.advance ⟨1, 1, 0, 2, iterationPhases[index]⟩ payload =
      ⟨1, 1, 0, 2, iterationPhases[index + 1]⟩ := by
  change index + 1 < 9 at inside
  have bound : index < 8 := by omega
  interval_cases index <;> rfl

/-- The processes at the start of a run of one iteration. -/
theorem sampleProcesses_start (rank : Fin 2) :
    (sampleProcesses ['1'] ['1'] rank).Steady ∧
      (sampleProcesses ['1'] ['1'] rank).control =
        ⟨1, 1, 0, 2, .count .collisions 0⟩ := by
  obtain ⟨steady, control⟩ := @sampleProcesses_steady ['1'] ['1'] 1 rank
    (by decide +kernel) (by decide) (by decide +kernel)
    (by fin_cases rank <;> decide +kernel)
    (by fin_cases rank <;> decide +kernel)
  refine ⟨steady, ?_⟩
  rw [control]
  simp [Control.test]

theorem sampleProcesses_next {index : Nat} (inside : index < iterationPhases.length)
    (here : ∀ rank, (Simulation.program.together^[index]
      (sampleProcesses ['1'] ['1']) rank).control =
        ⟨1, 1, 0, 2, iterationPhases[index]⟩) :
    ∃ payload, ∀ rank, (Simulation.program.together^[index + 1]
      (sampleProcesses ['1'] ['1']) rank).control =
        Control.advance ⟨1, 1, 0, 2, iterationPhases[index]⟩ payload := by
  have step : ∃ payload, ∀ rank, Simulation.program.control
      (Simulation.program.together (Simulation.program.together^[index]
        (sampleProcesses ['1'] ['1'])) rank) =
      Control.advance ⟨1, 1, 0, 2, iterationPhases[index]⟩ payload :=
    control_together (operation_iterationPhases inside inside) here
  rwa [Function.iterate_succ_apply']

theorem sampleProcesses_control (index : Nat)
    (inside : index < iterationPhases.length) (rank : Fin 2) :
    (Simulation.program.together^[index] (sampleProcesses ['1'] ['1'])
      rank).control = ⟨1, 1, 0, 2, iterationPhases[index]⟩ := by
  induction index generalizing rank with
  | zero => exact (sampleProcesses_start rank).2
  | succ index ih =>
      have earlier : index < iterationPhases.length := by omega
      obtain ⟨payload, later⟩ := sampleProcesses_next earlier (ih earlier)
      exact (later rank).trans (advance_iterationPhases inside payload)

/-- The processes after the first iteration. -/
theorem sampleProcesses_iteration :
    ∃ members, Simulation.program.Reaches Process.Prepared
        (sampleProcesses ['1'] ['1']) members ∧
      (∀ rank, (members rank).operations = iterationOperations ∧
        (members rank).completed = 9) ∧
      ∃ total, ∀ rank,
        (members rank).state.control = ⟨1, 1, 1, total, .saved 0⟩ := by
  have steady : ∀ (index : Nat) (rank : Fin 2), (Simulation.program.together^[index]
      (sampleProcesses ['1'] ['1']) rank).Steady :=
    together_iterate (fun payload kept => Process.Steady.resume kept payload)
      fun rank => (sampleProcesses_start rank).1
  obtain ⟨members, run, gathered⟩ : ∃ members,
      Simulation.program.Reaches Process.Prepared (sampleProcesses ['1'] ['1'])
        members ∧ Gathered 9 members := by
    apply Reaches.exists_together
    · intro index inside
      refine ⟨iterationOperations[index], fun rank => ?_⟩
      change (Simulation.program.together^[index] (sampleProcesses ['1'] ['1'])
        rank).control.phase.operation = _
      rw [sampleProcesses_control index inside rank]
      exact operation_iterationPhases inside inside
    · intro index _ rank
      have prepared := Process.prepared_of_sole (steady index rank).1
        (steady index rank).2
      exact ⟨prepared, Process.prepare_isSome prepared⟩
  refine ⟨members, run, fun rank => ⟨?_, (gathered rank).2.2⟩, ?_⟩
  · have mapped : (members rank).operations = (members rank).issued.map Prod.fst :=
      rfl
    rw [mapped]
    apply List.ext_getElem
    · simp [(gathered rank).2.1, iterationOperations]
    · intro index issued inside
      have found : index < (members rank).issued.length := by
        simpa using issued
      have next := (run.lockstep.issued rank index _ _
        (List.getElem?_eq_getElem found)).1
      change (Simulation.program.together^[index] (sampleProcesses ['1'] ['1'])
        rank).control.phase.operation = _ at next
      rw [sampleProcesses_control index inside rank] at next
      have same := (operation_iterationPhases inside inside).symm.trans next
      rw [List.getElem_map]
      exact (Option.some.inj same).symm
  · obtain ⟨payload, later⟩ := sampleProcesses_next (by decide)
      (sampleProcesses_control 8 (by decide))
    refine ⟨payload.number, fun rank => ?_⟩
    rw [run.lockstep.state rank, (gathered rank).2.2]
    refine (later rank).trans ?_
    change Control.advance ⟨(1 : ℝ), 1, 0, 2, .activeBodies⟩ payload = _
    simp [Control.advance, Control.test]

/-! ### A line that cannot be read -/

/-- The first process has issued the first barrier. -/
noncomputable def sampleMembers (mass : Text) :
    Members (Fin 2) (Process ℝ 2) (Collective 2) (Payload ℝ) :=
  Function.update (start (sampleProcesses ['0'] mass)) 0
    { state := sampleProcesses ['0'] mass 0
      issued := [(.barrier, default)]
      completed := 0
      failed := false }

theorem sampleMembers_step (mass : Text)
    (total : stoul ((streamLines '\n' (sampleContent mass)).headD []) = .ok 2)
    (single : (blockLines (sampleContent mass) 2 0).length = 1)
    (readable : ∀ line ∈ blockLines (sampleContent mass) 2 0,
      Readable sampleFormat line) :
    Simulation.program.Step 0 (start (sampleProcesses ['0'] mass))
      (sampleMembers mass) := by
  obtain ⟨⟨_, opens⟩, control⟩ := @sampleProcesses_steady ['0'] mass 0 0
    (by decide +kernel) (by decide) total single readable
  have phase : (sampleProcesses ['0'] mass 0).control.phase = .saved 0 := by
    rw [control]
    simp [Control.test]
  refine .issue rfl rfl ?_ ?_
  · change (sampleProcesses ['0'] mass 0).control.phase.operation = some .barrier
    rw [phase]
    rfl
  · change (sampleProcesses ['0'] mass 0).prepare = some default
    unfold Process.prepare
    rw [phase]
    simp [opens]

theorem Simulation.collectives_agree_sample :
    ∃ members, program.Reaches Process.Prepared (sampleProcesses ['1'] ['1'])
        members ∧
      (members 0).operations = iterationOperations ∧
      (members 1).operations = (members 0).operations ∧
      (members 1).state.control = (members 0).state.control := by
  have alike : UniverseAlike sampleFormat (sampleFiles ['1'])
      (sampleArguments ['1']) 2 := by
    intro _ _ content _ _ found
    cases found
    left
    intro rank inside
    interval_cases rank
    all_goals decide +kernel
  obtain ⟨members, run, issued, _⟩ := sampleProcesses_iteration
  obtain ⟨_, controls, prefixes, _⟩ := collectives_agree alike run
  have level : (members 1).completed = (members 0).completed :=
    (issued 1).2.trans (issued 0).2.symm
  have prefix' : (members 1).operations <+: (members 0).operations := by
    apply prefixes
    have length := congrArg List.length ((issued 1).1.trans (issued 0).1.symm)
    simpa [Member.operations] using length.le
  refine ⟨members, run, (issued 0).1, prefix'.eq_of_length ?_, controls 1 0 level⟩
  rw [(issued 1).1, (issued 0).1]

/-- With a second line that cannot be read, the first process waits in a
barrier that the second one never enters. -/
theorem Simulation.waits_for_ended :
    ∃ members, program.Reaches (fun _ => True) (sampleProcesses ['0'] ['x'])
        members ∧
      (members 0).operations = [.barrier] ∧
      (members 1).operations = [] ∧ program.Ended (members 1) ∧
      ∀ rank after, ¬ program.Step rank members after := by
  have step := sampleMembers_step ['x'] (by decide +kernel) (by decide +kernel)
    (by decide +kernel)
  have ended : (sampleProcesses ['0'] ['x'] 1).control.phase = .ended :=
    @sampleProcesses_ended ['0'] ['x'] 0 1 (by decide +kernel) (by decide)
      ⟨"x\t1\t0\t0\t0\t0\t0\t0".toList, by decide +kernel, by decide +kernel⟩
  have nothing : program.next (program.control (sampleMembers ['x'] 1).state) =
      none := by
    change (sampleProcesses ['0'] ['x'] 1).control.phase.operation = none
    rw [ended]
    rfl
  have missing : ∀ index operation,
      ¬ HasIssued (sampleMembers ['x']) index operation 1 := by
    intro index operation ⟨payload, found⟩
    cases found
  refine ⟨sampleMembers ['x'], .single ⟨0, trivial, step⟩, rfl, rfl,
    ⟨rfl, rfl, nothing⟩, ?_⟩
  intro rank after step
  fin_cases rank
  · cases step with
    | issue _ free _ _ => cases free
    | fail _ free _ _ => cases free
    | complete waiting others =>
        obtain ⟨payload, found⟩ := waiting
        cases found
        exact missing _ _ (others 1 trivial)
  · cases step with
    | issue _ _ next _ => cases nothing.symm.trans next
    | fail _ _ next _ => cases nothing.symm.trans next
    | complete waiting _ => exact missing _ _ waiting

end Concurrente.NBody
