import Concurrente.NBody.Simulation.Arguments

/-!
# Loading a universe

Of a well-formed file every process loads the rows of its own interval.  Any
other file is looked at row by row: a row can be loaded, or refused with an
exception that is caught, or it ends the program in another way.
-/

namespace Concurrente.NBody

open Library

/-! ## Intervals -/

/-- The intervals of all processes are a partition into equal shares. -/
structure Util.Partitions (workAmount workers : Nat) : Prop where
  starts : calculateStart (0 : Nat) workAmount workers = 0
  finishes : calculateFinish (workers - 1 : Nat) workAmount workers = workAmount
  consecutive : ∀ rank : Nat, calculateFinish rank workAmount workers =
    calculateStart (rank + 1 : Nat) workAmount workers
  nonempty : ∀ rank < workers, calculateStart rank workAmount workers <
    calculateFinish rank workAmount workers
  even : ∀ rank < workers, ∀ other < workers,
    calculateFinish rank workAmount workers -
        calculateStart rank workAmount workers ≤
      calculateFinish other workAmount workers -
        calculateStart other workAmount workers + 1

theorem Util.partitions {workAmount workers : Nat} (some : 1 ≤ workers)
    (enough : workers ≤ workAmount) : Partitions workAmount workers := by
  constructor
  · rw [calculateStart_natCast, start_zero, Nat.cast_zero]
  · rw [calculateFinish_natCast, Nat.sub_add_cancel some, start_workers some]
  · intro rank
    rw [calculateFinish_natCast, calculateStart_natCast]
  · intro rank _
    rw [calculateFinish_natCast, calculateStart_natCast]
    exact_mod_cast start_lt_succ some enough rank
  · intro rank _ other _
    have own := @start_succ workAmount workers rank
    have theirs := @start_succ workAmount workers other
    simp only [calculateFinish_natCast, calculateStart_natCast]
    split at own <;> split at theirs <;> omega

section

variable {α : Type} [RealArithmetic α] {format : NumberFormat α}

/-! ## Rows -/

variable (format) in
/-- The first eight cells of a line are the numbers of a body. -/
structure RowOf (line : Text) (body : Body α) : Prop where
  numbers : List.Forall₂ (fun cell number => format.stod cell = .ok number)
    ((streamLines '\t' line).take 8) body.written
  resting : body.acceleration = 0

omit [RealArithmetic α] in
theorem rowNumber_eq_ok {row : List Text} {index : Nat} {number : α} :
    Universe.rowNumber format row index = .ok number ↔
      ∃ cell, row[index]? = some cell ∧ format.stod cell = .ok number := by
  unfold Universe.rowNumber
  cases found : row[index]? with
  | none => simp
  | some cell => simp [mapError_eq_ok]

theorem loadBody_eq_ok {line : Text} {body : Body α} :
    Universe.loadBody format line = .ok body ↔ RowOf format line body := by
  unfold Universe.loadBody
  simp only [bind_eq_ok, rowNumber_eq_ok]
  constructor
  · intro ⟨mass, ⟨c0, f0, n0⟩, radius, ⟨c1, f1, n1⟩, x, ⟨c2, f2, n2⟩,
      y, ⟨c3, f3, n3⟩, z, ⟨c4, f4, n4⟩, vx, ⟨c5, f5, n5⟩, vy, ⟨c6, f6, n6⟩,
      vz, ⟨c7, f7, n7⟩, built⟩
    have same := Except.ok.inj built
    subst same
    have cells : (streamLines '\t' line).take 8 = [c0, c1, c2, c3, c4, c5, c6, c7] := by
      obtain ⟨inside, _⟩ := List.getElem?_eq_some_iff.mp f7
      apply List.ext_getElem?
      intro index
      have cases : index = 0 ∨ index = 1 ∨ index = 2 ∨ index = 3 ∨ index = 4 ∨
        index = 5 ∨ index = 6 ∨ index = 7 ∨ 8 ≤ index := by omega
      rcases cases with rfl | rfl | rfl | rfl | rfl | rfl | rfl | rfl | past
      case inr.inr.inr.inr.inr.inr.inr.inr =>
        rw [List.getElem?_eq_none (by rw [List.length_take]; omega),
          List.getElem?_eq_none (by simpa using past)]
      all_goals simp [*]
    constructor
    · rw [cells]
      simp [Body.written, *]
    · rfl
  · intro row
    have numbers := row.numbers
    have long := numbers.length_eq
    rw [List.length_take] at long
    have cell : ∀ (index : Nat) (number : α), body.written[index]? = some number →
        ∃ cell, (streamLines '\t' line)[index]? = some cell ∧
          format.stod cell = .ok number := by
      intro index number found
      obtain ⟨inside, same⟩ := List.getElem?_eq_some_iff.mp found
      have bound : index < 8 := inside
      have enough : index < (streamLines '\t' line).length := by
        simp [Body.written] at long
        omega
      refine ⟨(streamLines '\t' line)[index], List.getElem?_eq_getElem enough, ?_⟩
      have parsed := numbers.get (i := index) (by rw [List.length_take]; omega) inside
      rw [← same]
      simpa using parsed
    refine ⟨_, cell 0 _ rfl, _, cell 1 _ rfl, _, cell 2 _ rfl, _, cell 3 _ rfl,
      _, cell 4 _ rfl, _, cell 5 _ rfl, _, cell 6 _ rfl, _, cell 7 _ rfl, ?_⟩
    obtain ⟨_, _, _, _, _⟩ := body
    obtain rfl := row.resting
    rfl

theorem loadBodies_rows {rows : List Text} {bodies : List (Body α)}
    (described : List.Forall₂ (RowOf format) rows bodies) (count : Nat) :
    Universe.loadBodies format count rows = .ok (bodies.take count) := by
  induction described generalizing count with
  | nil => cases count <;> rfl
  | cons row _ ih =>
      cases count with
      | zero => rfl
      | succ count =>
          rw [Universe.loadBodies, loadBody_eq_ok.mpr row, ih]
          rfl

variable (format) in
/-- A well-formed universe file: the number of bodies, and a row for each. -/
def UniverseRows (content : Text) (bodies : List (Body α)) : Prop :=
  ∃ header rows, streamLines '\n' content = header :: rows ∧
    stoul header = .ok (UInt64.ofNat bodies.length) ∧
    List.Forall₂ (RowOf format) rows bodies

variable (format) in
/-- Every process has the bodies of its interval, in their order, and the
number of all of them; together the processes have every body once. -/
structure LoadsIntervals (files : Files) (name : Text) (bodies : List (Body α))
    (size : Nat) : Prop where
  intervals : ∀ rank < size,
    Universe.loadUniverse format files name rank size =
      .ok (bodies.length, ⟨(assigned bodies size rank).length,
        assigned bodies size rank⟩)
  once : (List.finRange size).flatMap (fun rank : Fin size =>
    assigned bodies size rank) = bodies

theorem loadsIntervals {files : Files} {name content : Text}
    {bodies : List (Body α)} {size : Nat} (some : 1 ≤ size)
    (enough : size ≤ bodies.length) (bound : bodies.length < 2 ^ 31)
    (found : files name = Option.some content)
    (described : UniverseRows format content bodies) :
    LoadsIntervals format files name bodies size := by
  refine ⟨fun rank inside => ?_, flatMap_assigned some⟩
  obtain ⟨header, rows, lines, counted, rowsOf⟩ := described
  have total : (UInt64.ofNat bodies.length).toNat = bodies.length :=
    UInt64.toNat_ofNat_of_lt' (bound.trans (by decide))
  have few : (assigned bodies size rank).length < 2 ^ 31 := by
    calc (assigned bodies size rank).length ≤ bodies.length := by
          rw [assigned, List.length_drop, List.length_take]
          omega
      _ < 2 ^ 31 := bound
  rw [loadUniverse_eq_ok]
  refine ⟨content, UInt64.ofNat bodies.length, assigned bodies size rank, found,
    ?_, total.symm, enough, ?_, ?_⟩
  · rw [lines]
    exact counted
  · rw [lines, List.tail_cons,
      Universe.setUniverseFileLimits_eq inside enough bound]
    have block := loadBodies_rows (List.forall₂_drop
      (Util.start bodies.length size rank) rowsOf)
      (Util.start bodies.length size (rank + 1) -
        Util.start bodies.length size rank)
    rw [block, assigned_eq_block, Library.block, List.drop_take]
  · rw [toInt_of_lt few]

/-- The processes share out every universe. -/
theorem loading_partitions (format : NumberFormat α) {total size : Nat}
    (some : 1 ≤ size) (enough : size ≤ total) (bound : total < 2 ^ 31) :
    Util.Partitions total size ∧
      ∀ (files : Files) (name content : Text) (bodies : List (Body α)),
        bodies.length = total → files name = Option.some content →
        UniverseRows format content bodies →
          LoadsIntervals format files name bodies size := by
  refine ⟨Util.partitions some enough, ?_⟩
  rintro files name content bodies rfl found described
  exact loadsIntervals some enough bound found described

/-! ## Every other file -/

variable (format) in
/-- The conversions of `Universe::loadBody`, in some order. -/
def convertCells (row : List Text) : List Nat → Except LoadError Unit
  | [] => .ok ()
  | index :: order => do
      let _ ← Universe.rowNumber format row index
      convertCells row order

variable (format) in
/-- `Universe::loadBody` with its conversions in some order.  They are arguments
of one call, and C++ leaves the order of these open. -/
def loadBodyIn (order : List Nat) (line : Text) : Except LoadError (Body α) := do
  convertCells format (streamLines '\t' line) order
  Universe.loadBody format line

/-- The loop of `Universe::loadUniverse` with a function for one line. -/
def loadBodiesBy (load : Text → Except LoadError (Body α)) :
    Nat → List Text → Except LoadError (List (Body α))
  | 0, _ => .ok []
  | _ + 1, [] => .ok []
  | count + 1, line :: lines => do
      let body ← load line
      let bodies ← loadBodiesBy load count lines
      return body :: bodies

/-- `Universe::loadUniverse` with a function for one line. -/
def loadUniverseBy (load : Text → Except LoadError (Body α)) (files : Files)
    (universeFile : Text) (rank size : Nat) :
    Except LoadError (Nat × Universe α) :=
  match files universeFile with
  | none => .error (.thrown (.invalidArgument "cannot open universe file".toList))
  | some content => Universe.rethrow do
      let lines := streamLines '\n' content
      let totalBodyCount ← ((stoul (lines.headD [])).mapError .thrown)
      if totalBodyCount.toNat < size then
        throw (.thrown (.runtimeError "insufficient bodies in universe".toList))
      let (rest, processBodiesCount) := Universe.setUniverseFileLimits lines.tail
        rank size totalBodyCount.toNat
      let bodies ← loadBodiesBy load processBodiesCount rest
      return (totalBodyCount.toNat, ⟨toInt bodies.length, bodies⟩)

theorem loadBodiesBy_loadBody (count : Nat) (lines : List Text) :
    loadBodiesBy (Universe.loadBody format) count lines =
      Universe.loadBodies format count lines := by
  induction lines generalizing count with
  | nil => cases count <;> rfl
  | cons line lines ih =>
      cases count with
      | zero => rfl
      | succ count => rw [loadBodiesBy, Universe.loadBodies, ih]

/-- The loader that evaluates the arguments from left to right. -/
theorem loadUniverseBy_loadBody (files : Files) (name : Text) (rank size : Nat) :
    loadUniverseBy (Universe.loadBody format) files name rank size =
      Universe.loadUniverse format files name rank size := by
  have same : loadBodiesBy (Universe.loadBody format) = Universe.loadBodies format := by
    funext count lines
    exact loadBodiesBy_loadBody count lines
  unfold loadUniverseBy
  generalize loadBodiesBy (Universe.loadBody format) = load at same ⊢
  subst same
  rfl

/-- The share of a process: the difference of the two `size_t`. -/
def share (rank size total : Nat) : Nat :=
  (Universe.setUniverseFileLimits [] rank size total).2

/-- What the caller of `loadUniverse` catches. -/
def LoadError.Caught : LoadError → Prop
  | .thrown (.outOfRange _) => False
  | .thrown _ => True
  | .undefined => False

variable (format) in
/-- Loading ends with an exception the caller catches, or with exactly the
bodies of the share, each from a row of eight numbers. -/
def LoadsSafely (files : Files) (name : Text) (rank size : Nat) :
    Except LoadError (Nat × Universe α) → Prop
  | .error error => error.Caught
  | .ok (total, self) =>
      self.bodies.length = share rank size total ∧
        ∃ content, files name = some content ∧
          List.Forall₂ (RowOf format) (blockLines content size rank) self.bodies

variable (format) in
/-- A row with eight columns, of which none is out of range. -/
def Convertible (line : Text) : Prop :=
  8 ≤ (streamLines '\t' line).length ∧
    ∀ cell ∈ (streamLines '\t' line).take 8, ∀ what,
      format.stod cell ≠ .error (.outOfRange what)

variable (format) in
/-- Every line of the share is there and can be read, or the first one that
cannot be read has eight columns and none out of range. -/
def BlockSafe (lines : List Text) (count : Nat) : Prop :=
  (lines.length = count ∧ ∀ line ∈ lines, Readable format line) ∨
    ∃ before line after, lines = before ++ line :: after ∧
      (∀ earlier ∈ before, Readable format earlier) ∧
      Convertible format line ∧ ¬ Readable format line

variable (format) in
/-- The number in the first line is not out of range, and if it is large enough
the lines of the process are safe. -/
def FileSafe (files : Files) (name : Text) (rank size : Nat) : Prop :=
  ∀ content, files name = some content →
    (∀ what, stoul ((streamLines '\n' content).headD []) ≠
      .error (.outOfRange what)) ∧
    ∀ count, stoul ((streamLines '\n' content).headD []) = .ok count →
      size ≤ count.toNat →
        BlockSafe format (blockLines content size rank)
          (share rank size count.toNat)

/-! ### One row -/

omit [RealArithmetic α] in
theorem readable_iff_rowNumber {line : Text} :
    Readable format line ↔ ∀ index < 8,
      (Universe.rowNumber format (streamLines '\t' line) index).isOk = true :=
  forall_rowNumber_isOk.symm

omit [RealArithmetic α] in
theorem convertible_iff_rowNumber {line : Text} :
    Convertible format line ↔ ∀ index < 8, ∀ error,
      Universe.rowNumber format (streamLines '\t' line) index = .error error →
        error.Caught := by
  unfold Convertible
  generalize streamLines '\t' line = row
  constructor
  · rintro ⟨enough, inRange⟩ index bound error failed
    have inside : index < row.length := by omega
    have member : row[index] ∈ row.take 8 :=
      List.mem_take_iff_getElem.mpr ⟨index, by omega, rfl⟩
    simp only [Universe.rowNumber, List.getElem?_eq_getElem inside] at failed
    cases parsed : format.stod row[index] with
    | ok number =>
        rw [parsed] at failed
        cases failed
    | error exception =>
        rw [parsed] at failed
        cases failed
        cases exception with
        | outOfRange what => exact absurd parsed (inRange _ member what)
        | invalidArgument what => trivial
        | runtimeError what => trivial
  · intro caught
    have enough : 8 ≤ row.length := by
      by_contra short
      exact caught row.length (by omega) .undefined (by
        simp [Universe.rowNumber])
    refine ⟨enough, fun cell member what parsed => ?_⟩
    obtain ⟨index, inside, same⟩ := List.mem_take_iff_getElem.mp member
    refine caught index (by omega) (.thrown (.outOfRange what)) ?_
    rw [Universe.rowNumber, List.getElem?_eq_getElem (by omega), same]
    simp [parsed, Except.mapError]

omit [RealArithmetic α] in
theorem convertCells_of_isOk {row : List Text} {order : List Nat}
    (numbers : ∀ index ∈ order, (Universe.rowNumber format row index).isOk = true) :
    convertCells format row order = .ok () := by
  induction order with
  | nil => rfl
  | cons index order ih =>
      obtain ⟨number, parsed⟩ := isOk_iff.mp (numbers index List.mem_cons_self)
      rw [convertCells, parsed]
      exact ih fun other member => numbers other (.tail _ member)

omit [RealArithmetic α] in
/-- The conversions end with an exception of one of the cells. -/
theorem convertCells_cases (row : List Text) (order : List Nat) :
    (∀ index ∈ order, (Universe.rowNumber format row index).isOk = true) ∨
      ∃ index ∈ order, ∃ error, Universe.rowNumber format row index = .error error ∧
        convertCells format row order = .error error := by
  induction order with
  | nil => exact .inl (by simp)
  | cons index order ih =>
      cases parsed : Universe.rowNumber format row index with
      | error error =>
          refine .inr ⟨index, List.mem_cons_self, error, parsed, ?_⟩
          rw [convertCells, parsed]
          rfl
      | ok number =>
          rcases ih with all | ⟨other, member, error, failed, ends⟩
          · left
            intro other member
            rcases List.mem_cons.mp member with rfl | later
            · exact isOk_iff.mpr ⟨number, parsed⟩
            · exact all other later
          · refine .inr ⟨other, .tail _ member, error, failed, ?_⟩
            rw [convertCells, parsed]
            exact ends

theorem loadBodyIn_of_readable {line : Text} (readable : Readable format line)
    {order : List Nat} (columns : order.Perm (List.range 8)) :
    loadBodyIn format order line = Universe.loadBody format line := by
  have converted := @convertCells_of_isOk _ format (streamLines '\t' line) order
    (fun index member => readable_iff_rowNumber.mp readable index
      (List.mem_range.mp (columns.subset member)))
  rw [loadBodyIn, converted]
  rfl

/-- What comes of a row that is not read depends on the order, but it is the
exception of one of its cells. -/
theorem loadBodyIn_of_not_readable {line : Text}
    (unreadable : ¬ Readable format line) {order : List Nat}
    (columns : order.Perm (List.range 8)) :
    ∃ index < 8, ∃ error,
      Universe.rowNumber format (streamLines '\t' line) index = .error error ∧
        loadBodyIn format order line = .error error := by
  rcases @convertCells_cases _ format (streamLines '\t' line) order with
    all | ⟨index, member, error, failed, ends⟩
  · refine absurd (readable_iff_rowNumber.mpr fun index inside => ?_) unreadable
    exact all index (columns.mem_iff.mpr (List.mem_range.mpr inside))
  · refine ⟨index, List.mem_range.mp (columns.subset member), error, failed, ?_⟩
    rw [loadBodyIn, ends]
    rfl

/-- Any column may come first. -/
theorem loadBodyIn_first {line : Text} {index : Nat} (inside : index < 8)
    {error : LoadError}
    (failed : Universe.rowNumber format (streamLines '\t' line) index = .error error) :
    ∃ order : List Nat, order.Perm (List.range 8) ∧
      loadBodyIn format order line = .error error := by
  refine ⟨index :: (List.range 8).erase index,
    (List.perm_cons_erase (List.mem_range.mpr inside)).symm, ?_⟩
  rw [loadBodyIn, convertCells, failed]
  rfl

/-! ### The rows of a process -/

omit [RealArithmetic α] in
theorem loadBodiesBy_eq_ok {load : Text → Except LoadError (Body α)} {count : Nat}
    {lines : List Text} {bodies : List (Body α)}
    (rows : List.Forall₂ (fun line body => load line = .ok body)
      (lines.take count) bodies) :
    loadBodiesBy load count lines = .ok bodies := by
  induction lines generalizing count bodies with
  | nil =>
      rw [List.take_nil] at rows
      cases rows
      cases count <;> rfl
  | cons line lines ih =>
      cases count with
      | zero =>
          cases rows
          rfl
      | succ count =>
          rw [List.take_succ_cons] at rows
          cases rows with
          | cons read rows =>
              rw [loadBodiesBy, read, ih rows]
              rfl

omit [RealArithmetic α] in
theorem loadBodiesBy_eq_error {load : Text → Except LoadError (Body α)}
    {count : Nat} {lines before after : List Text} {line : Text}
    {error : LoadError} (shape : lines.take count = before ++ line :: after)
    (read : ∀ earlier ∈ before, ∃ body, load earlier = .ok body)
    (failed : load line = .error error) :
    loadBodiesBy load count lines = .error error := by
  induction lines generalizing count before with
  | nil => simp at shape
  | cons head lines ih =>
      cases count with
      | zero => simp at shape
      | succ count =>
          rw [List.take_succ_cons] at shape
          cases before with
          | nil =>
              obtain ⟨rfl, _⟩ := List.cons.inj shape
              rw [loadBodiesBy, failed]
              rfl
          | cons first before =>
              obtain ⟨rfl, rest⟩ := List.cons.inj shape
              obtain ⟨body, first⟩ := read head List.mem_cons_self
              have later := ih rest fun earlier member =>
                read earlier (.tail _ member)
              rw [loadBodiesBy, first, later]
              rfl

omit [RealArithmetic α] in
/-- The first line that cannot be read. -/
theorem first_unreadable (lines : List Text) :
    (∀ line ∈ lines, Readable format line) ∨
      ∃ before line after, lines = before ++ line :: after ∧
        (∀ earlier ∈ before, Readable format earlier) ∧
        ¬ Readable format line := by
  induction lines with
  | nil => exact .inl (by simp)
  | cons head lines ih =>
      by_cases readable : Readable format head
      · rcases ih with all | ⟨before, line, after, rfl, earlier, unreadable⟩
        · exact .inl (List.forall_mem_cons.mpr ⟨readable, all⟩)
        · exact .inr ⟨head :: before, line, after, rfl,
            List.forall_mem_cons.mpr ⟨readable, earlier⟩, unreadable⟩
      · exact .inr ⟨[], head, lines, rfl, by simp, readable⟩

/-- Lines that can be read are rows of bodies. -/
theorem exists_rows {lines : List Text}
    (readable : ∀ line ∈ lines, Readable format line) :
    ∃ bodies : List (Body α),
      List.Forall₂ (RowOf format) lines bodies := by
  induction lines with
  | nil => exact ⟨[], .nil⟩
  | cons line lines ih =>
      obtain ⟨bodies, rows⟩ := ih fun other member => readable other (.tail _ member)
      obtain ⟨body, loaded⟩ := isOk_iff.mp
        (loadBody_isOk.mpr (readable line List.mem_cons_self))
      exact ⟨body :: bodies, .cons (loadBody_eq_ok.mp loaded) rows⟩

/-! ### The file -/

section File

variable {files : Files} {name content : Text} {rank size : Nat}

theorem loadsSafely_rethrow {error : LoadError} :
    LoadsSafely format files name rank size
        (Universe.rethrow (.error error)) ↔ error.Caught := by
  cases error with
  | undefined => exact Iff.rfl
  | thrown exception => cases exception <;> exact Iff.rfl

variable (found : files name = some content)

include found

omit [RealArithmetic α] in
theorem loadUniverseBy_of_stoul_error {load : Text → Except LoadError (Body α)}
    {exception : StdException}
    (failed : stoul ((streamLines '\n' content).headD []) = .error exception) :
    loadUniverseBy load files name rank size =
      Universe.rethrow (.error (.thrown exception)) := by
  rw [loadUniverseBy, found]
  simp only [failed]
  rfl

variable {count : UInt64}
  (parsed : stoul ((streamLines '\n' content).headD []) = .ok count)

include parsed

omit [RealArithmetic α] in
theorem loadUniverseBy_of_few {load : Text → Except LoadError (Body α)}
    (few : count.toNat < size) :
    loadUniverseBy load files name rank size =
      .error (.thrown (.runtimeError
        "insufficient bodies in universe".toList)) := by
  rw [loadUniverseBy, found]
  simp only [parsed]
  change Universe.rethrow (if count.toNat < size then _ else _) = _
  rw [if_pos few]
  rfl

omit found [RealArithmetic α] in
theorem blockLines_eq :
    blockLines content size rank =
      (Universe.setUniverseFileLimits (streamLines '\n' content).tail rank size
        count.toNat).1.take
        (Universe.setUniverseFileLimits (streamLines '\n' content).tail rank size
          count.toNat).2 := by
  rw [blockLines, parsed]
  rfl

variable (enough : size ≤ count.toNat)

include enough

omit [RealArithmetic α] in
theorem loadUniverseBy_of_enough (load : Text → Except LoadError (Body α)) :
    loadUniverseBy load files name rank size =
      Universe.rethrow (loadBodiesBy load
        (Universe.setUniverseFileLimits (streamLines '\n' content).tail rank size
          count.toNat).2
        (Universe.setUniverseFileLimits (streamLines '\n' content).tail rank size
          count.toNat).1 >>= fun bodies =>
            .ok (count.toNat, ⟨toInt bodies.length, bodies⟩)) := by
  rw [loadUniverseBy, found]
  simp only [parsed]
  change Universe.rethrow (if count.toNat < size then _ else _) = _
  rw [if_neg (not_lt.mpr enough)]
  rfl

omit [RealArithmetic α] in
/-- A process with enough lines reads those of its block. -/
theorem loadUniverseBy_of_rows {load : Text → Except LoadError (Body α)}
    {bodies : List (Body α)}
    (rows : List.Forall₂ (fun line body => load line = .ok body)
      (blockLines content size rank) bodies) :
    loadUniverseBy load files name rank size =
      .ok (count.toNat, ⟨toInt bodies.length, bodies⟩) := by
  rw [blockLines_eq parsed] at rows
  rw [loadUniverseBy_of_enough found parsed enough, loadBodiesBy_eq_ok rows]
  rfl

omit [RealArithmetic α] in
theorem loadUniverseBy_of_error {load : Text → Except LoadError (Body α)}
    {before after : List Text} {line : Text} {error : LoadError}
    (shape : blockLines content size rank = before ++ line :: after)
    (earlier : ∀ earlier ∈ before, ∃ body, load earlier = .ok body)
    (failed : load line = .error error) :
    loadUniverseBy load files name rank size =
      Universe.rethrow (.error error) := by
  rw [blockLines_eq parsed] at shape
  rw [loadUniverseBy_of_enough found parsed enough,
    loadBodiesBy_eq_error shape earlier failed]
  rfl

/-- Rows that can be read are loaded in every order. -/
theorem loadUniverseBy_of_readable
    (readable : ∀ line ∈ blockLines content size rank, Readable format line) :
    ∃ bodies : List (Body α),
      List.Forall₂ (RowOf format) (blockLines content size rank) bodies ∧
      ∀ order : List Nat, order.Perm (List.range 8) →
        loadUniverseBy (loadBodyIn format order) files name rank size =
          .ok (count.toNat, ⟨toInt bodies.length, bodies⟩) := by
  obtain ⟨bodies, rows⟩ := exists_rows (α := α) readable
  refine ⟨bodies, rows, fun order columns => ?_⟩
  apply loadUniverseBy_of_rows found parsed enough
  have both := List.forall₂_iff_zip.mp rows
  refine List.forall₂_iff_zip.mpr ⟨both.1, fun member => ?_⟩
  have inside := (List.of_mem_zip member).1
  rw [loadBodyIn_of_readable (readable _ inside) columns]
  exact loadBody_eq_ok.mpr (both.2 member)

theorem block_safe_iff :
    (∀ order : List Nat, order.Perm (List.range 8) →
      LoadsSafely format files name rank size
        (loadUniverseBy (loadBodyIn format order) files name rank size)) ↔
      BlockSafe format (blockLines content size rank)
        (share rank size count.toNat) := by
  have reads : ∀ (before : List Text),
      (∀ earlier ∈ before, Readable format earlier) →
      ∀ order : List Nat, order.Perm (List.range 8) →
        ∀ earlier ∈ before, ∃ body, loadBodyIn format order earlier = .ok body := by
    intro before readable order columns earlier member
    rw [loadBodyIn_of_readable (readable earlier member) columns]
    exact isOk_iff.mp (loadBody_isOk.mpr (readable earlier member))
  constructor
  · intro safe
    rcases @first_unreadable α format (blockLines content size rank) with
      readable | ⟨before, line, after, shape, readable, unreadable⟩
    · left
      obtain ⟨bodies, rows, loads⟩ :=
        loadUniverseBy_of_readable found parsed enough readable
      have loaded := safe _ (List.Perm.refl _)
      rw [loads _ (List.Perm.refl _)] at loaded
      exact ⟨rows.length_eq.trans loaded.1, readable⟩
    · right
      refine ⟨before, line, after, shape, readable, ?_, unreadable⟩
      rw [convertible_iff_rowNumber]
      intro index inside error failed
      obtain ⟨order, columns, ends⟩ := loadBodyIn_first inside failed
      have caught := safe order columns
      rwa [loadUniverseBy_of_error found parsed enough shape
        (reads before readable order columns) ends, loadsSafely_rethrow] at caught
  · rintro (⟨length, readable⟩ |
      ⟨before, line, after, shape, readable, convertible, unreadable⟩)
    · intro order columns
      obtain ⟨bodies, rows, loads⟩ :=
        loadUniverseBy_of_readable found parsed enough readable
      rw [loads order columns]
      exact ⟨rows.length_eq.symm.trans length, content, found, rows⟩
    · intro order columns
      obtain ⟨index, inside, error, failed, ends⟩ :=
        loadBodyIn_of_not_readable unreadable columns
      rw [loadUniverseBy_of_error found parsed enough shape
        (reads before readable order columns) ends, loadsSafely_rethrow]
      exact convertible_iff_rowNumber.mp convertible index inside error failed

end File

/-- In whatever order the columns are converted, loading is safe exactly for the
files that are. -/
theorem loadUniverse_safe_iff (files : Files) (name : Text) (rank size : Nat) :
    (∀ order : List Nat, order.Perm (List.range 8) →
      LoadsSafely format files name rank size
        (loadUniverseBy (loadBodyIn format order) files name rank size)) ↔
      FileSafe format files name rank size := by
  constructor
  · intro safe content found
    constructor
    · intro what failed
      have caught := safe _ (List.Perm.refl _)
      rw [loadUniverseBy_of_stoul_error found failed, loadsSafely_rethrow] at caught
      exact caught
    · intro count parsed enough
      exact (block_safe_iff found parsed enough).mp safe
  · intro safe order columns
    cases found : files name with
    | none =>
        rw [loadUniverseBy, found]
        trivial
    | some content =>
        obtain ⟨inRange, blocks⟩ := safe content found
        cases parsed : stoul ((streamLines '\n' content).headD []) with
        | error exception =>
            rw [loadUniverseBy_of_stoul_error found parsed, loadsSafely_rethrow]
            cases exception with
            | outOfRange what => exact absurd parsed (inRange what)
            | invalidArgument what => trivial
            | runtimeError what => trivial
        | ok count =>
            by_cases few : count.toNat < size
            · rw [loadUniverseBy_of_few found parsed few]
              trivial
            · have enough := not_lt.mp few
              exact (block_safe_iff found parsed enough).mpr
                (blocks count parsed enough) order columns

end

/-- Three bodies that rest, in different places. -/
noncomputable def restingBodies : List (Body ℝ) :=
  [⟨1, 1, ⟨0, 0, 0⟩, ⟨0, 0, 0⟩, ⟨0, 0, 0⟩⟩, ⟨1, 1, ⟨1, 0, 0⟩, ⟨0, 0, 0⟩, ⟨0, 0, 0⟩⟩,
    ⟨1, 1, ⟨0, 1, 0⟩, ⟨0, 0, 0⟩, ⟨0, 0, 0⟩⟩]

/-- A file of three bodies. -/
def restingFile : Text :=
  "3\n1\t1\t0\t0\t0\t0\t0\t0\n1\t1\t1\t0\t0\t0\t0\t0\n1\t1\t0\t1\t0\t0\t0\t0\n".toList

theorem universeRows_resting : UniverseRows sampleFormat restingFile restingBodies := by
  have number : ∀ {text : Text} {value : ℝ} (whole : Int),
      (scanNumeral text).map Numeral.value = some whole → (whole : ℝ) = value →
        sampleFormat.stod text = .ok value := by
    rintro text _ whole scanned rfl
    exact sampleFormat_stod scanned
  have zero : sampleFormat.stod "0".toList = .ok 0 := number 0 (by decide) (by norm_num)
  have one : sampleFormat.stod "1".toList = .ok 1 := number 1 (by decide) (by norm_num)
  have resting : List.Forall₂ (fun cell number => sampleFormat.stod cell = .ok number)
      ["0".toList, "0".toList, "0".toList, "0".toList] [0, 0, 0, 0] :=
    .cons zero (.cons zero (.cons zero (.cons zero .nil)))
  exact ⟨"3".toList, _, rfl, by decide,
    .cons ⟨.cons one (.cons one (.cons zero (.cons zero resting))), rfl⟩
      (.cons ⟨.cons one (.cons one (.cons one (.cons zero resting))), rfl⟩
        (.cons ⟨.cons one (.cons one (.cons zero (.cons one resting))), rfl⟩ .nil))⟩

/-- Two processes share out a file of three bodies. -/
theorem loading_partitions_sample :
    Util.Partitions 3 2 ∧
      LoadsIntervals sampleFormat (fun _ => some restingFile) "universe.tsv".toList
        restingBodies 2 := by
  obtain ⟨partitions, loads⟩ :=
    loading_partitions sampleFormat (by decide : 1 ≤ 2) (by decide : 2 ≤ 3) (by decide)
  exact ⟨partitions, loads _ _ _ restingBodies rfl rfl universeRows_resting⟩

/-- A file that ends behind its first line leaves the process without the body
of its share. -/
theorem loadUniverse_truncated :
    loadUniverseBy (loadBodyIn sampleFormat (List.range 8))
        (fun _ => some "1\n".toList) "universe.tsv".toList 0 1 =
      .ok (1, ⟨0, []⟩) ∧
    ¬ LoadsSafely sampleFormat (fun _ => some "1\n".toList)
        "universe.tsv".toList 0 1
        (loadUniverseBy (loadBodyIn sampleFormat (List.range 8))
          (fun _ => some "1\n".toList) "universe.tsv".toList 0 1) := by
  have block : blockLines "1\n".toList 1 0 = [] := by decide
  have loaded := @loadUniverseBy_of_rows ℝ (fun _ => some "1\n".toList)
    "universe.tsv".toList "1\n".toList 0 1 rfl 1 (by decide) (by decide)
    (loadBodyIn sampleFormat (List.range 8)) [] (by rw [block]; exact .nil)
  refine ⟨loaded, ?_⟩
  rw [loaded]
  intro safe
  exact absurd safe.1 (by decide)

end Concurrente.NBody
