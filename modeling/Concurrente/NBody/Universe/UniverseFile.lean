import Concurrente.Common.Lines
import Concurrente.NBody.Common.RealNumbers
import Concurrente.NBody.Common.Util
import Concurrente.NBody.Universe.Universe

/-!
# Universe files

The processes take turns to write their bodies to one file, and each process
reads its own block of such a file back.  How a number is printed and parsed
is left open; what is known of it is stated for the numbers in question.
-/

namespace Concurrente.NBody

open Library

/-- Stream insertion of a `double`, and `std::stod`. -/
structure NumberFormat (α : Type) where
  insert : α → Text
  stod : Text → Except StdException α

/-- A number whose text is parsed back, and can stand in a cell. -/
structure NumberFormat.Inverse {α : Type} (format : NumberFormat α) (value : α) :
    Prop where
  stod : format.stod (format.insert value) = .ok value
  nonempty : format.insert value ≠ []
  noTab : '\t' ∉ format.insert value
  noNewline : '\n' ∉ format.insert value

/-- The files by their names, with their contents. -/
abbrev Files : Type := Text → Option Text

/-- Why reading a universe ends early: an exception, or an access past the end
of a row. -/
inductive LoadError where
  | thrown (exception : StdException)
  | undefined
  deriving DecidableEq, Repr

/-- Conversion of a `size_t` to an `int`. -/
def toInt (value : Nat) : Int := (value : Int).bmod (2 ^ 32)

/-- Conversion of an `int` to a `size_t`. -/
def toSize (value : Int) : Nat := (value % 2 ^ 64).toNat

/-- Stream insertion of an `int`, and `std::to_string`. -/
def intToString (value : Int32) : Text := longToString value.toInt64

section

variable {α : Type} [RealArithmetic α] (format : NumberFormat α)

/-! ## Writing -/

namespace Body

/-- The numbers that `operator<<` writes. -/
def written (body : Body α) : List α :=
  [body.mass, body.radius, body.position.x, body.position.y, body.position.z,
    body.velocity.x, body.velocity.y, body.velocity.z]

/-- `operator<<`. -/
def line (body : Body α) : Text :=
  List.intercalate ['\t'] (body.written.map format.insert)

/-- A body as the loader builds it. -/
def loaded (body : Body α) : Body α := { body with acceleration := 0 }

end Body

/-- `std::string::find_last_of` and `substr`: the name without what follows the
last dot. -/
def withoutExtension (universeFile : Text) : Text :=
  if '.' ∈ universeFile then
    (universeFile.reverse.dropWhile (· ≠ '.')).tail.reverse
  else universeFile

/-- The name of the file that is written. -/
def savedName (universeFile : Text) (currentTime : Int32) : Text :=
  withoutExtension universeFile ++ "-".toList ++ intToString currentTime ++
    ".tsv".toList

namespace Universe

/-- `Universe::saveBodiesFile`, with the simulated time as an `int` and whether
the file can be opened. -/
def saveBodiesFile (self : Universe α) (opens : Bool) (universeFile : Text)
    (currentTime : Int32) (rank : Nat) (totalBodyCount : Int32) (files : Files) :
    Except StdException Files :=
  let fileName := savedName universeFile currentTime
  if opens then
    let opened :=
      if rank = 0 then intToString totalBodyCount ++ ['\n']
      else (files fileName).getD []
    .ok (Function.update files fileName
      (some (opened ++ self.bodies.flatMap fun body =>
        body.line format ++ ['\n'])))
  else .error (.runtimeError "cannot save bodies file".toList)

/-! ## Reading -/

/-- `std::stod` of a cell of a row. -/
def rowNumber (row : List Text) (index : Nat) : Except LoadError α :=
  match row[index]? with
  | some cell => (format.stod cell).mapError .thrown
  | none => .error .undefined

/-- `Universe::loadBody` of a line. -/
def loadBody (line : Text) : Except LoadError (Body α) := do
  let row := streamLines '\t' line
  let mass ← rowNumber format row 0
  let radius ← rowNumber format row 1
  let position : RealVector α :=
    ⟨← rowNumber format row 2, ← rowNumber format row 3, ← rowNumber format row 4⟩
  let velocity : RealVector α :=
    ⟨← rowNumber format row 5, ← rowNumber format row 6, ← rowNumber format row 7⟩
  return { mass, radius, position, velocity, acceleration := 0 }

/-- The loop of `loadUniverse`.  Past the end of the file nothing is loaded. -/
def loadBodies : Nat → List Text → Except LoadError (List (Body α))
  | 0, _ => .ok []
  | _ + 1, [] => .ok []
  | count + 1, line :: lines => do
      let body ← loadBody format line
      let bodies ← loadBodies count lines
      return body :: bodies

/-- `Universe::setUniverseFileLimits`: the lines that are left and the number
of bodies to load. -/
def setUniverseFileLimits (lines : List Text) (rank size totalBodyCount : Nat) :
    List Text × Nat :=
  let processBodiesStart := toSize
    (Util.calculateStart (toInt rank) (toInt totalBodyCount) (toInt size))
  let processBodiesEnd := toSize
    (Util.calculateFinish (toInt rank) (toInt totalBodyCount) (toInt size))
  (lines.drop processBodiesStart, toSize (processBodiesEnd - processBodiesStart))

/-- The `catch` block of `loadUniverse`. -/
def rethrow {β : Type} : Except LoadError β → Except LoadError β
  | .error (.thrown (.invalidArgument _)) =>
      .error (.thrown (.invalidArgument
        "invalid body arguments in universe file".toList))
  | result => result

/-- `Universe::loadUniverse`: the total of the first line, and the bodies of
this process. -/
def loadUniverse (files : Files) (universeFile : Text) (rank size : Nat) :
    Except LoadError (Nat × Universe α) :=
  match files universeFile with
  | none => .error (.thrown (.invalidArgument "cannot open universe file".toList))
  | some content => rethrow do
      let lines := streamLines '\n' content
      let totalBodyCount ← ((stoul (lines.headD [])).mapError .thrown)
      if totalBodyCount.toNat < size then
        throw (.thrown (.runtimeError "insufficient bodies in universe".toList))
      let (rest, processBodiesCount) := setUniverseFileLimits lines.tail rank size
        totalBodyCount.toNat
      let bodies ← loadBodies format processBodiesCount rest
      return (totalBodyCount.toNat, ⟨toInt bodies.length, bodies⟩)

end Universe

/-- `Simulation::saveFinalState`: the processes write in turn. -/
def Simulation.saveFinalState {size : Nat} (universes : Fin size → Universe α)
    (opens : Fin size → Bool) (universeFile : Text) (simulatedTime : Int32)
    (totalBodiesCount : Int32) (files : Files) : Except StdException Files :=
  (List.finRange size).foldlM (fun files rank =>
    (universes rank).saveBodiesFile format (opens rank) universeFile simulatedTime
      rank totalBodiesCount files) files

end

/-! ## Conversions -/

theorem toInt_of_lt {value : Nat} (bound : value < 2 ^ 31) :
    toInt value = value := by
  unfold toInt
  rw [Int.bmod_eq_of_le] <;> omega

theorem toSize_natCast {value : Nat} (bound : value < 2 ^ 64) :
    toSize value = value := by
  unfold toSize
  omega

/-- A number that is not negative is printed with digits only. -/
theorem intToString_of_nonneg {value : Int32} {number : Nat}
    (same : value.toInt = number) :
    intToString value = Nat.toDigits 10 number := by
  unfold intToString longToString
  rw [Int32.toInt_toInt64, same, if_neg (by omega), Int.natAbs_natCast]

theorem stoul_toDigits {number : Nat} (bound : number < 2 ^ 64) :
    stoul (Nat.toDigits 10 number) = .ok (UInt64.ofNat number) := by
  have read := stoul_unsignedToString (UInt64.ofNat number)
  rwa [unsignedToString, UInt64.toNat_ofNat_of_lt' bound] at read

section RoundTrip

variable {α : Type} {format : NumberFormat α}

/-! ## One body -/

theorem Body.line_cells {body : Body α}
    (inverse : ∀ value ∈ body.written, format.Inverse value) :
    streamLines '\t' (body.line format) = body.written.map format.insert := by
  apply streamLines_intercalate
  · intro cell member
    obtain ⟨value, inside, same⟩ := List.mem_map.mp member
    exact same ▸ (inverse value inside).noTab
  · simp [Body.written]
  · have last := (inverse body.velocity.z (by simp [Body.written])).nonempty
    simpa [Body.written] using last

theorem Body.line_noNewline {body : Body α}
    (inverse : ∀ value ∈ body.written, format.Inverse value) :
    '\n' ∉ body.line format := by
  apply notMem_intercalate (by decide)
  intro cell member
  obtain ⟨value, inside, same⟩ := List.mem_map.mp member
  exact same ▸ (inverse value inside).noNewline

variable [RealArithmetic α]

theorem Universe.loadBody_line {body : Body α}
    (inverse : ∀ value ∈ body.written, format.Inverse value) :
    loadBody format (body.line format) = .ok body.loaded := by
  have number : ∀ (index : Nat) (inside : index < body.written.length),
      rowNumber format (body.written.map format.insert) index =
        .ok body.written[index] := by
    intro index inside
    have found : (body.written.map format.insert)[index]? =
        some (format.insert body.written[index]) := by
      rw [List.getElem?_map, List.getElem?_eq_getElem inside, Option.map_some]
    simp only [rowNumber, found]
    rw [(inverse _ (List.getElem_mem inside)).stod]
    rfl
  unfold loadBody
  rw [Body.line_cells inverse]
  dsimp only
  rw [number 0 (by simp [Body.written]),
    number 1 (by simp [Body.written]), number 2 (by simp [Body.written]),
    number 3 (by simp [Body.written]), number 4 (by simp [Body.written]),
    number 5 (by simp [Body.written]), number 6 (by simp [Body.written]),
    number 7 (by simp [Body.written])]
  rfl

namespace Universe

/-- The number of bodies to load, and lines for at least as many. -/
theorem loadBodies_lines {bodies : List (Body α)}
    (inverse : ∀ body ∈ bodies, ∀ value ∈ body.written, format.Inverse value)
    (count : Nat) :
    loadBodies format count (bodies.map (Body.line format)) =
      .ok ((bodies.take count).map Body.loaded) := by
  induction bodies generalizing count with
  | nil => cases count <;> rfl
  | cons body bodies ih =>
      cases count with
      | zero => rfl
      | succ count =>
          have rest := ih (fun other member =>
            inverse other (List.mem_cons_of_mem _ member)) count
          rw [List.map_cons, loadBodies,
            loadBody_line (inverse body List.mem_cons_self), rest]
          rfl

theorem setUniverseFileLimits_eq {lines : List Text} {rank size total : Nat}
    (inside : rank < size) (enough : size ≤ total) (bound : total < 2 ^ 31) :
    setUniverseFileLimits lines rank size total =
      (lines.drop (Util.start total size rank),
        Util.start total size (rank + 1) - Util.start total size rank) := by
  have some : 0 < size := by omega
  have ends : Util.start total size size = total := Util.start_workers some
  have finish : Util.start total size (rank + 1) ≤ Util.start total size size :=
    Util.start_monotone inside
  have grows : Util.start total size rank ≤ Util.start total size (rank + 1) :=
    Util.start_monotone (Nat.le_succ rank)
  unfold setUniverseFileLimits
  rw [toInt_of_lt (by omega), toInt_of_lt bound, toInt_of_lt (by omega),
    Util.calculateStart_natCast, Util.calculateFinish_natCast,
    toSize_natCast (by omega), toSize_natCast (by omega)]
  dsimp only
  rw [← Int.ofNat_sub grows, toSize_natCast (by omega)]

/-- The contents of a file with a total and bodies. -/
def fileOf (format : NumberFormat α) (total : Nat) (bodies : List (Body α)) :
    Text :=
  Nat.toDigits 10 total ++ '\n' :: bodies.flatMap fun body =>
    body.line format ++ ['\n']

/-- Each process loads its block of the bodies in a file. -/
theorem loadUniverse_fileOf {files : Files} {universeFile : Text}
    {bodies : List (Body α)} {rank size : Nat} (inside : rank < size)
    (enough : size ≤ bodies.length) (bound : bodies.length < 2 ^ 31)
    (inverse : ∀ body ∈ bodies, ∀ value ∈ body.written, format.Inverse value)
    (content : files universeFile =
      some (fileOf format bodies.length bodies)) :
    loadUniverse format files universeFile rank size =
      .ok (bodies.length, ⟨(assigned bodies size rank).length,
        (assigned bodies size rank).map Body.loaded⟩) := by
  have noNewline : '\n' ∉ Nat.toDigits 10 bodies.length := by
    intro member
    cases isDigit_of_mem_toDigits member
  have lines : streamLines '\n' (fileOf format bodies.length bodies) =
      Nat.toDigits 10 bodies.length :: bodies.map (Body.line format) := by
    rw [fileOf, streamLines_cons noNewline, streamLines_flatMap]
    exact fun body member => Body.line_noNewline (inverse body member)
  have total : (UInt64.ofNat bodies.length).toNat = bodies.length :=
    UInt64.toNat_ofNat_of_lt' (bound.trans (by decide))
  have blocks : loadBodies format
      (Util.start bodies.length size (rank + 1) -
        Util.start bodies.length size rank)
      ((bodies.map (Body.line format)).drop
        (Util.start bodies.length size rank)) =
      .ok ((assigned bodies size rank).map Body.loaded) := by
    rw [← List.map_drop, loadBodies_lines (fun body member =>
      inverse body (List.mem_of_mem_drop member)), assigned_eq_block, block,
      List.drop_take]
  have few : (assigned bodies size rank).length < 2 ^ 31 := by
    calc (assigned bodies size rank).length ≤ bodies.length := by
          rw [assigned, List.length_drop, List.length_take]
          omega
      _ < 2 ^ 31 := bound
  unfold loadUniverse
  rw [content]
  dsimp only
  rw [lines, List.headD_cons, stoul_toDigits (by omega)]
  change rethrow (do
    if (UInt64.ofNat bodies.length).toNat < size then
      throw (.thrown (.runtimeError "insufficient bodies in universe".toList))
    let loaded ← loadBodies format
      (setUniverseFileLimits (bodies.map (Body.line format)) rank size
        (UInt64.ofNat bodies.length).toNat).2
      (setUniverseFileLimits (bodies.map (Body.line format)) rank size
        (UInt64.ofNat bodies.length).toNat).1
    return ((UInt64.ofNat bodies.length).toNat,
      (⟨toInt loaded.length, loaded⟩ : Universe α))) = _
  rw [total, if_neg (by omega), setUniverseFileLimits_eq inside enough bound, blocks]
  change Except.ok _ = Except.ok _
  rw [List.length_map, toInt_of_lt few]

end Universe

/-! ## The file of all processes -/

omit [RealArithmetic α] in
theorem Universe.saveBodiesFile_eq_ok {self : Universe α} {opens : Bool}
    {universeFile : Text} {currentTime totalBodyCount : Int32} {rank : Nat}
    {files saved : Files}
    (written : self.saveBodiesFile format opens universeFile currentTime rank
      totalBodyCount files = .ok saved) :
    saved (savedName universeFile currentTime) =
      some ((if rank = 0 then intToString totalBodyCount ++ ['\n']
        else (files (savedName universeFile currentTime)).getD []) ++
        self.bodies.flatMap fun body => body.line format ++ ['\n']) := by
  unfold saveBodiesFile at written
  dsimp only at written
  split at written
  · cases written
    exact Function.update_self ..
  · cases written

section Turns

variable {writers : Nat} {universes : Fin writers → Universe α}
  {opens : Fin writers → Bool} {universeFile : Text}
  {simulatedTime totalBodiesCount : Int32} {files saved : Files}

omit [RealArithmetic α] in
/-- The processes after the first one append their bodies. -/
theorem Simulation.turns_content {ranks : List (Fin writers)} {content : Text}
    (later : ∀ rank ∈ ranks, rank.val ≠ 0)
    (found : files (savedName universeFile simulatedTime) = some content)
    (written : ranks.foldlM (fun files rank =>
      (universes rank).saveBodiesFile format (opens rank) universeFile
        simulatedTime rank totalBodiesCount files) files = .ok saved) :
    saved (savedName universeFile simulatedTime) =
      some (content ++ (ranks.flatMap fun rank =>
        (universes rank).bodies).flatMap fun body =>
          body.line format ++ ['\n']) := by
  induction ranks generalizing files content with
  | nil =>
      cases written
      rw [found, List.flatMap_nil, List.flatMap_nil, List.append_nil]
  | cons rank ranks ih =>
      rw [List.foldlM_cons] at written
      cases turn : (universes rank).saveBodiesFile format (opens rank)
          universeFile simulatedTime rank totalBodiesCount files with
      | error exception =>
          rw [turn] at written
          cases written
      | ok next =>
          rw [turn] at written
          have appended := Universe.saveBodiesFile_eq_ok turn
          rw [if_neg (later rank List.mem_cons_self), found,
            Option.getD_some] at appended
          rw [ih (fun other member => later other (.tail _ member)) appended
            written, List.flatMap_cons, List.flatMap_append, List.append_assoc]

omit [RealArithmetic α] in
theorem Simulation.saveFinalState_content (some : 0 < writers)
    (written : saveFinalState format universes opens universeFile simulatedTime
      totalBodiesCount files = .ok saved) :
    saved (savedName universeFile simulatedTime) =
      Option.some (intToString totalBodiesCount ++ '\n' ::
        ((List.finRange writers).flatMap fun rank =>
          (universes rank).bodies).flatMap fun body =>
            body.line format ++ ['\n']) := by
  cases writers with
  | zero => cases some
  | succ others =>
      rw [saveFinalState, List.finRange_succ, List.foldlM_cons] at written
      cases turn : (universes 0).saveBodiesFile format (opens 0) universeFile
          simulatedTime (0 : Fin (others + 1)) totalBodiesCount files with
      | error exception =>
          rw [turn] at written
          cases written
      | ok next =>
          rw [turn] at written
          have first := Universe.saveBodiesFile_eq_ok turn
          rw [if_pos (by simp)] at first
          rw [Simulation.turns_content (by simp) first written,
            List.finRange_succ, List.flatMap_cons, List.flatMap_append]
          simp

end Turns

/-! ## Resuming -/

/-- Loaded by a number of processes, a file gives the same bodies in the same
order and the same total, and the counters of the processes add up to the
number of active bodies. -/
structure Universe.Resumes (format : NumberFormat α) (files : Files)
    (universeFile : Text) (bodies : List (Body α)) {size : Nat}
    (universes : Fin size → Universe α) : Prop where
  total : ∀ rank : Fin size, loadUniverse format files universeFile rank size =
    .ok (bodies.length, universes rank)
  restored : (List.finRange size).flatMap (fun rank => (universes rank).bodies) =
    bodies.map Body.loaded
  active : ∑ rank, (universes rank).activeBodiesCount =
    bodies.countP Body.isActive

/-- All but the counters is restored; these count every body. -/
theorem Universe.resumes_iff_length {files : Files} {universeFile : Text}
    {bodies : List (Body α)} {size : Nat} (some : 0 < size)
    (enough : size ≤ bodies.length) (bound : bodies.length < 2 ^ 31)
    (inverse : ∀ body ∈ bodies, ∀ value ∈ body.written, format.Inverse value)
    (content : files universeFile =
      Option.some (fileOf format bodies.length bodies)) :
    (∃ universes : Fin size → Universe α,
      Resumes format files universeFile bodies universes) ↔
      bodies.countP Body.isActive = bodies.length := by
  have loads := fun rank : Fin size =>
    loadUniverse_fileOf rank.isLt enough bound inverse content
  have whole : (List.finRange size).flatMap (fun rank : Fin size =>
      assigned bodies size rank) = bodies := flatMap_assigned some
  have counted : ∑ rank : Fin size,
      ((assigned bodies size rank).length : Int) = bodies.length := by
    conv_rhs => rw [← whole, List.length_flatMap, ← Fin.sum_univ_def]
    rw [Nat.cast_sum]
  constructor
  · intro ⟨universes, resumes⟩
    have active := resumes.active
    have same : ∀ rank, (universes rank).activeBodiesCount =
        (assigned bodies size rank).length := by
      intro rank
      have loaded := (resumes.total rank).symm.trans (loads rank)
      simp only [Except.ok.injEq, Prod.mk.injEq, true_and] at loaded
      rw [loaded]
    simp only [same, counted] at active
    exact_mod_cast active.symm
  · intro all
    refine ⟨fun rank => ⟨(assigned bodies size rank).length,
      (assigned bodies size rank).map Body.loaded⟩, loads, ?_, ?_⟩
    · rw [← List.map_flatMap, whole]
    · rw [all]
      exact counted

/-- What the processes write together is restored by any number of processes
that is not larger than the number of bodies, up to the counters of active
bodies.  These are right only when no body is inactive. -/
theorem Simulation.saved_resumes_iff {writers size : Nat}
    {universes : Fin writers → Universe α} {bodies : List (Body α)}
    {opens : Fin writers → Bool} {universeFile : Text}
    {simulatedTime totalBodiesCount : Int32} {files saved : Files}
    (spread : (List.finRange writers).flatMap
      (fun rank => (universes rank).bodies) = bodies)
    (counted : totalBodiesCount.toInt = bodies.length)
    (inverse : ∀ body ∈ bodies, ∀ value ∈ body.written, format.Inverse value)
    (written : saveFinalState format universes opens universeFile simulatedTime
      totalBodiesCount files = .ok saved)
    (some : 0 < size) (enough : size ≤ bodies.length) :
    (∃ loaded : Fin size → Universe α,
      Universe.Resumes format saved (savedName universeFile simulatedTime) bodies
        loaded) ↔
      ∀ body ∈ bodies, body.isActive := by
  have writer : 0 < writers := by
    by_contra none
    have zero : writers = 0 := by omega
    subst zero
    rw [← spread] at enough
    simp at enough
    omega
  have bound : bodies.length < 2 ^ 31 := by
    have upper := totalBodiesCount.toInt_lt
    omega
  have content := saveFinalState_content writer written
  rw [spread, intToString_of_nonneg counted] at content
  rw [Universe.resumes_iff_length some enough bound inverse content,
    List.countP_eq_length]

end RoundTrip

/-! ## A sample -/

/-- Whole numbers are printed with their digits. -/
noncomputable def sampleFormat : NumberFormat ℝ where
  insert value := longToString (Int64.ofInt ⌊value⌋)
  stod text :=
    match scanNumeral text with
    | none => .error (.invalidArgument "stod".toList)
    | some numeral => .ok numeral.value

theorem sampleFormat_stod {text : Text} {value : Int}
    (scanned : (scanNumeral text).map Numeral.value = some value) :
    sampleFormat.stod text = .ok (value : ℝ) := by
  obtain ⟨numeral, found, same⟩ := Option.map_eq_some_iff.mp scanned
  rw [sampleFormat]
  simp only [found, same]

theorem sampleFormat_inverse {value : ℝ} (whole : Int) (same : (whole : ℝ) = value)
    (lower : -2 ^ 63 ≤ whole) (upper : whole < 2 ^ 63) :
    sampleFormat.Inverse value := by
  subst same
  obtain ⟨numeral, scanned, denotes, _⟩ :=
    scanNumeral_longToString (Int64.ofInt whole)
  rw [Int64.toInt_ofInt_of_le lower upper] at denotes
  have printed : sampleFormat.insert (whole : ℝ) =
      longToString (Int64.ofInt whole) := by
    simp only [sampleFormat, Int.floor_intCast]
  constructor
  · rw [printed, sampleFormat]
    simp only [scanned, denotes]
  · rw [printed]
    exact longToString_ne_nil _
  · rw [printed]
    exact not_mem_longToString (by decide) (by decide)
  · rw [printed]
    exact not_mem_longToString (by decide) (by decide)

/-- Two bodies, of which the first absorbed the second. -/
noncomputable def savedBodies : List (Body ℝ) :=
  [⟨1, 1, ⟨0, 0, 0⟩, ⟨1, 0, 0⟩, 0⟩, ⟨-1, 1, ⟨0, 1, 0⟩, ⟨0, 0, 1⟩, 0⟩]

/-- The first of them, and the second one before it was absorbed. -/
noncomputable def activeBodies : List (Body ℝ) :=
  [⟨1, 1, ⟨0, 0, 0⟩, ⟨1, 0, 0⟩, 0⟩, ⟨1, 1, ⟨0, 1, 0⟩, ⟨0, 0, 1⟩, 0⟩]

theorem sample_inverse :
    ∀ body ∈ savedBodies ++ activeBodies, ∀ value ∈ body.written,
      sampleFormat.Inverse value := by
  have zero := sampleFormat_inverse 0 Int.cast_zero (by decide) (by decide)
  have one := sampleFormat_inverse 1 Int.cast_one (by decide) (by decide)
  have negative : sampleFormat.Inverse (-1) :=
    sampleFormat_inverse (-1) (by norm_num) (by decide) (by decide)
  simp [savedBodies, activeBodies, Body.written, zero, one, negative]

/-- Two processes with a body each. -/
noncomputable def sampleUniverses (bodies : List (Body ℝ)) (rank : Fin 2) : Universe ℝ :=
  let own := (bodies.drop rank).take 1
  ⟨own.countP Body.isActive, own⟩

/-- The processes have written their bodies one after the other. -/
theorem sample_written (bodies : List (Body ℝ)) :
    ∃ saved, Simulation.saveFinalState sampleFormat (sampleUniverses bodies)
      (fun _ => true) "universe.tsv".toList 9 2 (fun _ => none) = .ok saved :=
  ⟨_, rfl⟩

theorem Simulation.saved_resumes_iff_sample :
    ∃ saved, Simulation.saveFinalState sampleFormat (sampleUniverses activeBodies)
        (fun _ => true) "universe.tsv".toList 9 2 (fun _ => none) = .ok saved ∧
      ∃ loaded : Fin 2 → Universe ℝ,
        Universe.Resumes sampleFormat saved
          (savedName "universe.tsv".toList 9) activeBodies loaded := by
  obtain ⟨saved, written⟩ := sample_written activeBodies
  refine ⟨saved, written, ?_⟩
  have spread : (List.finRange 2).flatMap
      (fun rank => (sampleUniverses activeBodies rank).bodies) = activeBodies := rfl
  rw [Simulation.saved_resumes_iff spread rfl
    (fun body member => sample_inverse body (List.mem_append_right _ member))
    written (by decide) (by decide)]
  simp [activeBodies, Body.isActive]

/-- The body that was absorbed is counted as active again. -/
theorem Simulation.inactive_body_counted :
    ∃ saved, Simulation.saveFinalState sampleFormat (sampleUniverses savedBodies)
        (fun _ => true) "universe.tsv".toList 9 2 (fun _ => none) = .ok saved ∧
      (∀ body ∈ savedBodies, ∀ value ∈ body.written,
        sampleFormat.Inverse value) ∧
      ¬ ∃ loaded : Fin 2 → Universe ℝ,
        Universe.Resumes sampleFormat saved
          (savedName "universe.tsv".toList 9) savedBodies loaded := by
  obtain ⟨saved, written⟩ := sample_written savedBodies
  have inverse := fun body member =>
    sample_inverse body (List.mem_append_left activeBodies member)
  refine ⟨saved, written, inverse, ?_⟩
  have content := saveFinalState_content (by decide) written
  rw [Universe.resumes_iff_length (by decide) (by decide) (by decide) inverse]
  · simp [savedBodies, Body.isActive]
  · exact content

end Concurrente.NBody
