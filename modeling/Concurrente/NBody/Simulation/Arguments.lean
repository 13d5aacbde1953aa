import Concurrente.Common.Util
import Concurrente.NBody.Universe.UniverseFile

/-!
# The start of a simulation

Every process reads the same arguments, and then its own block of the universe
file or its own random bodies.  What a process gets past depends on its rank
only through the lines of its block.
-/

namespace Concurrente.NBody

open Library

/-- `ExecutionMode`, with what it comes with: the name of the universe file, or
the number of bodies and the limits of their values. -/
inductive ExecutionMode (α : Type) where
  | universeFile (name : Text)
  | randomUniverse (totalBodiesCount : Int) (limits : List α)

/-- What the arguments ask for. -/
structure Arguments (α : Type) where
  deltaTime : α
  maxTime : α
  mode : ExecutionMode α

/-- A `catch` block for `std::invalid_argument` that throws another one. -/
def catchInvalid {β : Type} (what : Text) :
    Except StdException β → Except StdException β
  | .error (.invalidArgument _) => .error (.invalidArgument what)
  | result => result

section

variable {α : Type} [RealArithmetic α] (format : NumberFormat α)

/-- The default limits of mass, radius, position and velocity. -/
def defaultLimits : List α :=
  ([10, 2000, 1, 1000, -1000, 1000, -1000, 1000] : List Int).map Int.cast

/-- `Universe::analyzeRandomUniverseModeArguments`: the limits. -/
def analyzeRandomUniverseModeArguments (argv : List Text) :
    Except StdException (List α) :=
  if argv.length < 12 then .ok (List.replicate 8 0)
  else
    match ((argv.drop 4).take 8).mapM format.stod with
    | .error (.invalidArgument _) => .ok defaultLimits
    | result => result

/-- `Simulation::analyzeArguments`. -/
def analyzeArguments (argv : List Text) (size : Nat) :
    Except StdException (Arguments α) := do
  if argv.length < 4 then
    throw (.invalidArgument "insufficient arguments".toList)
  if argv.tail.any fun argument => (find "help".toList argument).isSome then
    throw (.invalidArgument "help requested".toList)
  let (deltaTime, maxTime) ← catchInvalid "invalid time value".toList do
    let deltaTime ← format.stod (argv.getD 2 [])
    let maxTime ← format.stod (argv.getD 3 [])
    if deltaTime < 0 ∨ maxTime < 0 then
      throw (.invalidArgument "negative time values are not permitted".toList)
    return (deltaTime, maxTime)
  match stoul (argv.getD 1 []) with
  | .ok count =>
      let totalBodiesCount := toInt count.toNat
      if totalBodiesCount < size then
        throw (.runtimeError "insufficient bodies in universe".toList)
      let limits ← analyzeRandomUniverseModeArguments format argv
      return { deltaTime, maxTime, mode := .randomUniverse totalBodiesCount limits }
  | .error (.invalidArgument _) =>
      return { deltaTime, maxTime, mode := .universeFile (argv.getD 1 []) }
  | .error exception => throw exception

/-- `Universe::createUniverse`, with the bodies that are drawn. -/
def Universe.createUniverse (draw : Nat → Body α) (rank size : Nat)
    (totalBodiesCount : Int) : Universe α :=
  let start := Util.calculateStart rank totalBodiesCount size
  let finish := Util.calculateFinish rank totalBodiesCount size
  let bodies := (List.range (finish - start).toNat).map draw
  ⟨toInt bodies.length, bodies⟩

/-- What a process has after `startSimulation`. -/
structure Started (α : Type) where
  deltaTime : α
  maxTime : α
  totalBodiesCount : Int
  ownUniverse : Universe α

/-- `Simulation::startSimulation`.  A process that fails leaves the program. -/
def Simulation.startSimulation (files : Files) (argv : List Text)
    (draw : List α → Nat → Nat → Body α) (size rank : Nat) :
    Except LoadError (Started α) := do
  let arguments ← (analyzeArguments format argv size).mapError .thrown
  match arguments.mode with
  | .universeFile name =>
      let (total, ownUniverse) ← Universe.loadUniverse format files name rank size
      return ⟨arguments.deltaTime, arguments.maxTime, toInt total, ownUniverse⟩
  | .randomUniverse total limits =>
      return ⟨arguments.deltaTime, arguments.maxTime, total,
        Universe.createUniverse (draw limits rank) rank size total⟩

/-! ## Blocks of a universe file -/

/-- A line that a body can be read from. -/
def Readable (line : Text) : Prop :=
  8 ≤ (streamLines '\t' line).length ∧
    ∀ cell ∈ (streamLines '\t' line).take 8, (format.stod cell).isOk

/-- The lines of a file that a process reads bodies from. -/
def blockLines (content : Text) (size rank : Nat) : List Text :=
  let lines := streamLines '\n' content
  let total := (stoul (lines.headD [])).toOption.elim 0 UInt64.toNat
  let limits := Universe.setUniverseFileLimits lines.tail rank size total
  limits.1.take limits.2

/-- Lines of which some are readable, and the next one has enough cells but one
that is no number. -/
def Refused (lines : List Text) : Prop :=
  ∃ before line after, lines = before ++ line :: after ∧
    (∀ earlier ∈ before, Readable format earlier) ∧
    8 ≤ (streamLines '\t' line).length ∧ ¬ Readable format line

/-- Either every process can read all lines of its block, or every process
comes to a line that it refuses. -/
def BlocksAlike (content : Text) (size : Nat) : Prop :=
  (∀ rank < size, ∀ line ∈ blockLines content size rank, Readable format line) ∨
    ∀ rank < size, Refused format (blockLines content size rank)

/-- The blocks of the universe file, if the arguments name one. -/
def UniverseAlike (files : Files) (argv : List Text) (size : Nat) : Prop :=
  ∀ arguments name content, analyzeArguments format argv size = .ok arguments →
    arguments.mode = .universeFile name → files name = some content →
    BlocksAlike format content size

variable {format}

/-! ## What loading depends on -/

section Except

variable {ε ε' β γ : Type}

theorem isOk_iff {result : Except ε β} :
    result.isOk = true ↔ ∃ value, result = .ok value := by
  cases result with
  | error exception => simp [Except.isOk, Except.toBool]
  | ok value => simp [Except.isOk, Except.toBool]

theorem bind_eq_ok {result : Except ε β} {next : β → Except ε γ} {value : γ} :
    result >>= next = .ok value ↔
      ∃ first, result = .ok first ∧ next first = .ok value := by
  cases result with
  | error exception => simp [bind, Except.bind]
  | ok first => simp [bind, Except.bind]

theorem isOk_bind {result : Except ε β} {next : β → Except ε γ} :
    (result >>= next).isOk = true ↔
      ∃ first, result = .ok first ∧ (next first).isOk = true := by
  cases result with
  | error exception => simp [bind, Except.bind, Except.isOk, Except.toBool]
  | ok first => simp [bind, Except.bind]

theorem mapError_eq_ok {result : Except ε β} {change : ε → ε'} {value : β} :
    result.mapError change = .ok value ↔ result = .ok value := by
  cases result with
  | error exception => simp [Except.mapError]
  | ok first => simp [Except.mapError]

end Except

omit [RealArithmetic α]

theorem rowNumber_isOk {row : List Text} {index : Nat} :
    (Universe.rowNumber format row index).isOk = true ↔
      ∃ cell, row[index]? = some cell ∧ (format.stod cell).isOk = true := by
  unfold Universe.rowNumber
  cases found : row[index]? with
  | none => simp [Except.isOk, Except.toBool]
  | some cell =>
      simp only [isOk_iff, mapError_eq_ok, Option.some.injEq]
      simp

/-- The cells of a row up to a number of them. -/
theorem forall_rowNumber_isOk {row : List Text} {count : Nat} :
    (∀ index < count, (Universe.rowNumber format row index).isOk = true) ↔
      count ≤ row.length ∧
        ∀ cell ∈ row.take count, (format.stod cell).isOk = true := by
  simp only [rowNumber_isOk]
  constructor
  · intro numbers
    have enough : count ≤ row.length := by
      by_contra short
      obtain ⟨cell, found, _⟩ := numbers row.length (not_le.mp short)
      simp at found
    refine ⟨enough, fun cell member => ?_⟩
    obtain ⟨index, inside, same⟩ := List.mem_iff_getElem.mp member
    rw [List.length_take] at inside
    obtain ⟨other, found, parsed⟩ := numbers index (by omega)
    rw [List.getElem_take] at same
    rw [List.getElem?_eq_getElem (by omega), same] at found
    cases found
    exact parsed
  · intro ⟨enough, parsed⟩ index inside
    have bound : index < row.length := by omega
    refine ⟨row[index], List.getElem?_eq_getElem bound, parsed _ ?_⟩
    rw [List.mem_take_iff_getElem]
    exact ⟨index, by omega, rfl⟩

variable [RealArithmetic α]

theorem loadBody_isOk {line : Text} :
    (Universe.loadBody format line).isOk = true ↔ Readable format line := by
  unfold Readable
  rw [← forall_rowNumber_isOk]
  unfold Universe.loadBody
  simp only [isOk_bind]
  constructor
  · intro ⟨_, h0, _, h1, _, h2, _, h3, _, h4, _, h5, _, h6, _, h7, _⟩ index inside
    have cases : index = 0 ∨ index = 1 ∨ index = 2 ∨ index = 3 ∨ index = 4 ∨
      index = 5 ∨ index = 6 ∨ index = 7 := by omega
    rcases cases with rfl | rfl | rfl | rfl | rfl | rfl | rfl | rfl
    all_goals exact isOk_iff.mpr ⟨_, by assumption⟩
  · intro numbers
    have number := fun index inside => isOk_iff.mp (numbers index inside)
    obtain ⟨_, h0⟩ := number 0 (by decide)
    obtain ⟨_, h1⟩ := number 1 (by decide)
    obtain ⟨_, h2⟩ := number 2 (by decide)
    obtain ⟨_, h3⟩ := number 3 (by decide)
    obtain ⟨_, h4⟩ := number 4 (by decide)
    obtain ⟨_, h5⟩ := number 5 (by decide)
    obtain ⟨_, h6⟩ := number 6 (by decide)
    obtain ⟨_, h7⟩ := number 7 (by decide)
    exact ⟨_, h0, _, h1, _, h2, _, h3, _, h4, _, h5, _, h6, _, h7, rfl⟩

theorem loadBodies_isOk {lines : List Text} {count : Nat} :
    (Universe.loadBodies format count lines).isOk = true ↔
      ∀ line ∈ lines.take count, Readable format line := by
  induction lines generalizing count with
  | nil => cases count <;> simp [Universe.loadBodies, Except.isOk, Except.toBool]
  | cons line lines ih =>
      cases count with
      | zero => simp [Universe.loadBodies, Except.isOk, Except.toBool]
      | succ count =>
          rw [List.take_succ_cons, List.forall_mem_cons, ← loadBody_isOk, ← ih,
            Universe.loadBodies]
          simp only [isOk_iff, bind_eq_ok]
          constructor
          · intro read
            obtain ⟨_, body, loaded, bodies, others, _⟩ := read
            exact ⟨⟨body, loaded⟩, bodies, others⟩
          · intro read
            obtain ⟨⟨body, loaded⟩, bodies, others⟩ := read
            exact ⟨_, body, loaded, bodies, others, rfl⟩

theorem rethrow_eq_ok {β : Type} {result : Except LoadError β} {value : β} :
    Universe.rethrow result = .ok value ↔ result = .ok value := by
  unfold Universe.rethrow
  split <;> simp

/-- What a process has loaded. -/
theorem loadUniverse_eq_ok {files : Files} {name : Text} {rank size total : Nat}
    {ownUniverse : Universe α} :
    Universe.loadUniverse format files name rank size =
        .ok (total, ownUniverse) ↔
      ∃ content count bodies, files name = some content ∧
        stoul ((streamLines '\n' content).headD []) = .ok count ∧
        total = count.toNat ∧ size ≤ total ∧
        Universe.loadBodies format
          (Universe.setUniverseFileLimits (streamLines '\n' content).tail rank size
            total).2
          (Universe.setUniverseFileLimits (streamLines '\n' content).tail rank size
            total).1 = .ok bodies ∧
        ownUniverse = ⟨toInt bodies.length, bodies⟩ := by
  unfold Universe.loadUniverse
  cases found : files name with
  | none => simp
  | some content =>
      simp only [rethrow_eq_ok, bind_eq_ok, mapError_eq_ok, Option.some.injEq]
      constructor
      · intro ⟨count, parsed, loaded⟩
        split at loaded
        · cases loaded
        · obtain ⟨bodies, read, same⟩ := bind_eq_ok.mp loaded
          obtain ⟨counted, built⟩ := Prod.mk.inj (Except.ok.inj same)
          subst counted
          exact ⟨content, count, bodies, rfl, parsed, rfl, not_lt.mp ‹_›, read,
            built.symm⟩
      · rintro ⟨_, count, bodies, rfl, parsed, rfl, enough, read, rfl⟩
        refine ⟨count, parsed, ?_⟩
        rw [if_neg (not_lt.mpr enough)]
        exact bind_eq_ok.mpr ⟨bodies, read, rfl⟩

/-! ## Processes start alike -/

omit [RealArithmetic α] in
theorem Refused.exists_not_readable {lines : List Text}
    (refused : Refused format lines) : ∃ line ∈ lines, ¬ Readable format line := by
  obtain ⟨before, line, after, same, _, _, unreadable⟩ := refused
  exact ⟨line, by rw [same]; exact List.mem_append_right _ List.mem_cons_self,
    unreadable⟩

/-- Which lines a process loads bodies from. -/
theorem loadBodies_blockLines {content : Text} {rank size : Nat} {count : UInt64}
    (parsed : stoul ((streamLines '\n' content).headD []) = .ok count) :
    (Universe.loadBodies format
        (Universe.setUniverseFileLimits (streamLines '\n' content).tail rank size
          count.toNat).2
        (Universe.setUniverseFileLimits (streamLines '\n' content).tail rank size
          count.toNat).1).isOk = true ↔
      ∀ line ∈ blockLines content size rank, Readable format line := by
  rw [loadBodies_isOk, blockLines, parsed]
  rfl

theorem length_loadBodies {count : Nat} {lines : List Text} {bodies : List (Body α)}
    (loaded : Universe.loadBodies format count lines = .ok bodies) :
    bodies.length = (lines.take count).length := by
  induction count generalizing lines bodies with
  | zero =>
      cases loaded
      rfl
  | succ count ih =>
      cases lines with
      | nil =>
          cases loaded
          rfl
      | cons line lines =>
          rw [Universe.loadBodies] at loaded
          obtain ⟨body, _, rest⟩ := bind_eq_ok.mp loaded
          obtain ⟨later, read, built⟩ := bind_eq_ok.mp rest
          cases built
          simp [ih read]

/-- No process loads its block of a file, or all do. -/
theorem loadUniverse_alike {files : Files} {name : Text} {size : Nat}
    (alike : ∀ content, files name = some content →
      BlocksAlike format content size) :
    (∀ rank < size, ∀ loaded,
      Universe.loadUniverse format files name rank size ≠ .ok loaded) ∨
    ∃ total, ∀ rank < size, ∃ ownUniverse,
      Universe.loadUniverse format files name rank size =
        .ok (total, ownUniverse) := by
  by_cases known : ∃ content count, files name = some content ∧
      stoul ((streamLines '\n' content).headD []) = .ok count ∧
      size ≤ count.toNat
  · obtain ⟨content, count, found, parsed, enough⟩ := known
    rcases alike content found with readable | refused
    · right
      refine ⟨count.toNat, fun rank inside => ?_⟩
      obtain ⟨bodies, read⟩ := isOk_iff.mp
        ((loadBodies_blockLines parsed).mpr (readable rank inside))
      exact ⟨_, loadUniverse_eq_ok.mpr
        ⟨content, count, bodies, found, parsed, rfl, enough, read, rfl⟩⟩
    · left
      intro rank inside loaded got
      obtain ⟨other, count', bodies, found', parsed', same, _, read, _⟩ :=
        loadUniverse_eq_ok.mp got
      rw [found] at found'
      cases found'
      rw [same] at read
      obtain ⟨line, member, unreadable⟩ := (refused rank inside).exists_not_readable
      exact unreadable
        ((loadBodies_blockLines parsed').mp (isOk_iff.mpr ⟨_, read⟩) line member)
  · left
    intro rank inside loaded got
    obtain ⟨content, count, bodies, found, parsed, same, enough, _, _⟩ :=
      loadUniverse_eq_ok.mp got
    exact known ⟨content, count, found, parsed, same ▸ enough⟩

/-- No process gets past the start, or all do with the same times and the same
total. -/
theorem startSimulation_alike {files : Files} {argv : List Text}
    (draw : List α → Nat → Nat → Body α) {size : Nat}
    (alike : UniverseAlike format files argv size) :
    (∀ rank < size, ∀ started,
      Simulation.startSimulation format files argv draw size rank ≠ .ok started) ∨
    ∃ deltaTime maxTime total, ∀ rank < size, ∃ ownUniverse,
      Simulation.startSimulation format files argv draw size rank =
        .ok ⟨deltaTime, maxTime, total, ownUniverse⟩ := by
  unfold Simulation.startSimulation
  cases analyzed : analyzeArguments format argv size with
  | error exception =>
      left
      intro rank _ started got
      cases got
  | ok arguments =>
      obtain ⟨deltaTime, maxTime, mode⟩ := arguments
      cases mode with
      | randomUniverse total limits =>
          right
          exact ⟨deltaTime, maxTime, total, fun rank _ => ⟨_, rfl⟩⟩
      | universeFile name =>
          rcases loadUniverse_alike fun content =>
              alike _ name content analyzed rfl with none | ⟨total, all⟩
          · left
            intro rank inside started got
            obtain ⟨arguments, same, got⟩ := bind_eq_ok.mp got
            cases mapError_eq_ok.mp same
            obtain ⟨loaded, read, _⟩ := bind_eq_ok.mp got
            exact none rank inside loaded read
          · right
            refine ⟨deltaTime, maxTime, toInt total, fun rank inside => ?_⟩
            obtain ⟨ownUniverse, read⟩ := all rank inside
            exact ⟨ownUniverse,
              bind_eq_ok.mpr ⟨_, rfl, bind_eq_ok.mpr ⟨_, read, rfl⟩⟩⟩

end

end Concurrente.NBody
