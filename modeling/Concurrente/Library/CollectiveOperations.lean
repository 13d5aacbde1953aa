import Concurrente.Library.FlatRecords

/-!
# Collective operations

Processes run the same program and meet in collective operations.  A process
issues an operation with what it contributes, and goes on when the processes
that the operation waits for have issued the same operation; so a process can
be ahead of others.

Which operation a process issues next depends on a part of its state, its
control, and all processes see the same outcomes.  Processes that start with
the same control therefore issue the same operations, as long as none fails.
-/

namespace Concurrente.Library

/-- The program of the processes.  `prepare` is what a process contributes to
its next operation; it has no result when the process fails on the way. -/
structure CollectiveProgram
    (Process State Control Operation Payload : Type) where
  control : State → Control
  next : Control → Option Operation
  prepare : State → Option Payload
  resume : State → Payload → State
  advance : Control → Payload → Control
  waitsFor : Operation → Process → Prop
  outcome : Operation → (Process → Payload) → Payload
  control_resume : ∀ {state operation}, next (control state) = some operation →
    ∀ payload, control (resume state payload) = advance (control state) payload
  outcome_congr : ∀ {operation contributions others},
    (∀ process, waitsFor operation process →
      contributions process = others process) →
    outcome operation contributions = outcome operation others

namespace CollectiveProgram

/-- A process: its state, the operations it has issued with what it
contributed, how many of them are completed, and whether it has failed. -/
structure Member (State Operation Payload : Type) where
  state : State
  issued : List (Operation × Payload)
  completed : Nat
  failed : Bool

variable {Process State Control Operation Payload : Type} [Inhabited Payload]
  (program : CollectiveProgram Process State Control Operation Payload)

/-- All processes. -/
abbrev Members (Process State Operation Payload : Type) : Type :=
  Process → Member State Operation Payload

/-- What a process contributed to its operation at an index. -/
def contribution (members : Members Process State Operation Payload)
    (index : Nat) (process : Process) : Payload :=
  ((members process).issued[index]?).elim default Prod.snd

/-- A process has issued an operation at an index. -/
def HasIssued (members : Members Process State Operation Payload) (index : Nat)
    (operation : Operation) (process : Process) : Prop :=
  ∃ payload, (members process).issued[index]? = some (operation, payload)

section Step

variable [DecidableEq Process]

/-- One step of a process. -/
inductive Step (process : Process)
    (members : Members Process State Operation Payload) :
    Members Process State Operation Payload → Prop where
  | issue {operation : Operation} {payload : Payload}
      (running : (members process).failed = false)
      (free : (members process).issued.length = (members process).completed)
      (next : program.next (program.control (members process).state) =
        some operation)
      (prepared : program.prepare (members process).state = some payload) :
      Step process members (Function.update members process
        { members process with
          issued := (members process).issued ++ [(operation, payload)] })
  | fail {operation : Operation}
      (running : (members process).failed = false)
      (free : (members process).issued.length = (members process).completed)
      (next : program.next (program.control (members process).state) =
        some operation)
      (unprepared : program.prepare (members process).state = none) :
      Step process members (Function.update members process
        { members process with failed := true })
  | complete {operation : Operation}
      (waiting : HasIssued members (members process).completed operation process)
      (others : ∀ other, program.waitsFor operation other →
        HasIssued members (members process).completed operation other) :
      Step process members (Function.update members process
        { members process with
          state := program.resume (members process).state
            (program.outcome operation
              (contribution members (members process).completed))
          completed := (members process).completed + 1 })

/-- Before the first operation. -/
def start (states : Process → State) :
    Members Process State Operation Payload :=
  fun process =>
    { state := states process, issued := [], completed := 0, failed := false }

/-- The states of all runs in which every process that steps meets a
condition. -/
def Reaches (meets : State → Prop) (states : Process → State) :
    Members Process State Operation Payload → Prop :=
  Relation.ReflTransGen
    (fun before after => ∃ process, meets (before process).state ∧
      program.Step process before after) (start states)

end Step

/-- The operations a process has issued. -/
def Member.operations (member : Member State Operation Payload) :
    List Operation :=
  member.issued.map Prod.fst

/-- A process that has nothing left to do. -/
def Ended (member : Member State Operation Payload) : Prop :=
  member.failed = false ∧ member.issued.length = member.completed ∧
    program.next (program.control member.state) = none

section Alignment

variable (first : Control)

omit [Inhabited Payload] in
/-- The control after a number of operations with given outcomes. -/
def controlAfter (outcomes : List Payload) : Control :=
  outcomes.foldl program.advance first

omit [Inhabited Payload] in
theorem controlAfter_take_succ {outcomes : List Payload} {index : Nat}
    {payload : Payload} (found : outcomes[index]? = some payload) :
    program.controlAfter first (outcomes.take (index + 1)) =
      program.advance (program.controlAfter first (outcomes.take index))
        payload := by
  obtain ⟨inside, same⟩ := List.getElem?_eq_some_iff.mp found
  rw [List.take_succ_eq_append_getElem inside, same, controlAfter,
    List.foldl_append]
  rfl

/-- All processes follow one sequence of outcomes. -/
structure Aligned (outcomes : List Payload)
    (members : Members Process State Operation Payload) : Prop where
  running : ∀ process, (members process).failed = false
  completed : ∀ process, (members process).completed ≤ outcomes.length
  issued : ∀ process,
    (members process).completed ≤ (members process).issued.length ∧
      (members process).issued.length ≤ (members process).completed + 1
  control : ∀ process, program.control (members process).state =
    program.controlAfter first (outcomes.take (members process).completed)
  operation : ∀ process index operation,
    HasIssued members index operation process →
      program.next (program.controlAfter first (outcomes.take index)) =
        some operation
  outcome : ∀ index payload, outcomes[index]? = some payload →
    ∃ operation,
      program.next (program.controlAfter first (outcomes.take index)) =
        some operation ∧
      (∀ process, program.waitsFor operation process →
        HasIssued members index operation process) ∧
      payload = program.outcome operation (contribution members index)

variable {program first} {outcomes : List Payload}
  {members : Members Process State Operation Payload}

theorem contribution_of_hasIssued
    {members others : Members Process State Operation Payload} {index : Nat}
    {operation : Operation} {process : Process}
    (issued : HasIssued members index operation process)
    (kept : (members process).issued <+: (others process).issued) :
    HasIssued others index operation process ∧
      contribution others index process = contribution members index process := by
  obtain ⟨payload, found⟩ := issued
  obtain ⟨inside, _⟩ := List.getElem?_eq_some_iff.mp found
  obtain ⟨rest, same⟩ := kept
  have later : (others process).issued[index]? = some (operation, payload) := by
    rw [← same, List.getElem?_append_left inside, found]
  exact ⟨⟨payload, later⟩, by rw [contribution, contribution, found, later]⟩

/-- Every process has issued at most one operation more than the outcomes. -/
theorem Aligned.index_le (aligned : Aligned program first outcomes members)
    {index : Nat} {operation : Operation} {process : Process}
    (issued : HasIssued members index operation process) :
    index ≤ outcomes.length := by
  obtain ⟨payload, found⟩ := issued
  obtain ⟨inside, _⟩ := List.getElem?_eq_some_iff.mp found
  have bound := (aligned.issued process).2
  have known := aligned.completed process
  omega

/-- An operation that all have issued gets its outcome. -/
theorem Aligned.extend (aligned : Aligned program first outcomes members)
    {operation : Operation}
    (next : program.next (program.controlAfter first outcomes) = some operation)
    (others : ∀ process, program.waitsFor operation process →
      HasIssued members outcomes.length operation process) :
    Aligned program first (outcomes ++
      [program.outcome operation (contribution members outcomes.length)])
      members := by
  have front : ∀ {index}, index ≤ outcomes.length →
      ∀ last : Payload, (outcomes ++ [last]).take index = outcomes.take index :=
    fun bound last => List.take_append_of_le_length bound
  constructor
  · exact aligned.running
  · intro process
    have known := aligned.completed process
    rw [List.length_append, List.length_singleton]
    omega
  · exact aligned.issued
  · intro process
    rw [front (aligned.completed process)]
    exact aligned.control process
  · intro process index operation issued
    rw [front (aligned.index_le issued)]
    exact aligned.operation process index operation issued
  · intro index payload found
    by_cases inside : index < outcomes.length
    · rw [List.getElem?_append_left inside] at found
      rw [front inside.le]
      exact aligned.outcome index payload found
    · have last : index = outcomes.length := by
        obtain ⟨bound, _⟩ := List.getElem?_eq_some_iff.mp found
        rw [List.length_append, List.length_singleton] at bound
        omega
      subst last
      rw [List.getElem?_concat_length] at found
      cases found
      refine ⟨operation, ?_, others, rfl⟩
      rw [front (Nat.le_refl _), List.take_length]
      exact next

variable [DecidableEq Process] {process : Process}

/-- A process issues its next operation. -/
theorem Aligned.issue (aligned : Aligned program first outcomes members)
    {operation : Operation} {payload : Payload}
    (free : (members process).issued.length = (members process).completed)
    (next : program.next (program.control (members process).state) =
      some operation) :
    Aligned program first outcomes (Function.update members process
      { members process with
        issued := (members process).issued ++ [(operation, payload)] }) := by
  generalize changed : Function.update members process _ = after
  have own : after process = { members process with
      issued := (members process).issued ++ [(operation, payload)] } := by
    rw [← changed, Function.update_self]
  have same : ∀ other, other ≠ process → after other = members other := by
    intro other ne
    rw [← changed, Function.update_of_ne ne]
  have frame : ∀ other, (after other).state = (members other).state ∧
      (after other).completed = (members other).completed ∧
      (after other).failed = (members other).failed ∧
      (members other).issued <+: (after other).issued := by
    intro other
    by_cases ne : other = process
    · subst ne
      rw [own]
      exact ⟨rfl, rfl, rfl, List.prefix_append _ _⟩
    · rw [same other ne]
      exact ⟨rfl, rfl, rfl, List.prefix_refl _⟩
  constructor
  · intro other
    rw [(frame other).2.2.1]
    exact aligned.running other
  · intro other
    rw [(frame other).2.1]
    exact aligned.completed other
  · intro other
    by_cases ne : other = process
    · subst ne
      rw [own]
      simp [free]
    · rw [same other ne]
      exact aligned.issued other
  · intro other
    rw [(frame other).1, (frame other).2.1]
    exact aligned.control other
  · intro other index found issued
    by_cases earlier : index < (members other).issued.length
    · apply aligned.operation other
      obtain ⟨value, here⟩ := issued
      obtain ⟨rest, split⟩ := (frame other).2.2.2
      rw [← split, List.getElem?_append_left earlier] at here
      exact ⟨value, here⟩
    · -- only the operation that was issued just now is later
      obtain ⟨value, here⟩ := issued
      by_cases ne : other = process
      · subst ne
        obtain ⟨bound, _⟩ := List.getElem?_eq_some_iff.mp here
        rw [own] at here bound
        have last : index = (members other).issued.length := by
          rw [List.length_append, List.length_singleton] at bound
          omega
        subst last
        rw [List.getElem?_concat_length] at here
        cases here
        rw [free, ← aligned.control other]
        exact next
      · rw [same other ne] at here
        obtain ⟨bound, _⟩ := List.getElem?_eq_some_iff.mp here
        exact (earlier bound).elim
  · intro index value found
    obtain ⟨known, follows, all, computed⟩ := aligned.outcome index value found
    refine ⟨known, follows, fun other waits => ?_, computed.trans ?_⟩
    · exact (contribution_of_hasIssued (all other waits) (frame other).2.2.2).1
    · apply program.outcome_congr
      intro other waits
      exact (contribution_of_hasIssued (all other waits)
        (frame other).2.2.2).2.symm

/-- A process completes an operation whose outcome is known. -/
theorem Aligned.complete (aligned : Aligned program first outcomes members)
    {payload : Payload} {operation : Operation}
    (waiting : HasIssued members (members process).completed operation process)
    (found : outcomes[(members process).completed]? = some payload) :
    Aligned program first outcomes (Function.update members process
      { members process with
        state := program.resume (members process).state payload
        completed := (members process).completed + 1 }) := by
  generalize changed : Function.update members process _ = after
  have own : after process = { members process with
      state := program.resume (members process).state payload
      completed := (members process).completed + 1 } := by
    rw [← changed, Function.update_self]
  have same : ∀ other, other ≠ process → after other = members other := by
    intro other ne
    rw [← changed, Function.update_of_ne ne]
  have issued : ∀ other, (after other).issued = (members other).issued := by
    intro other
    by_cases ne : other = process
    · subst ne
      rw [own]
    · rw [same other ne]
  have history : ∀ index operation other,
      HasIssued after index operation other ↔
        HasIssued members index operation other := by
    intro index operation other
    rw [HasIssued, HasIssued, issued]
  have contributions : ∀ index,
      contribution after index = contribution members index := by
    intro index
    funext other
    rw [contribution, contribution, issued]
  obtain ⟨inside, _⟩ := List.getElem?_eq_some_iff.mp found
  constructor
  · intro other
    by_cases ne : other = process
    · subst ne
      rw [own]
      exact aligned.running other
    · rw [same other ne]
      exact aligned.running other
  · intro other
    by_cases ne : other = process
    · subst ne
      rw [own]
      exact inside
    · rw [same other ne]
      exact aligned.completed other
  · intro other
    rw [issued]
    by_cases ne : other = process
    · subst ne
      rw [own]
      obtain ⟨value, here⟩ := waiting
      obtain ⟨bound, _⟩ := List.getElem?_eq_some_iff.mp here
      exact ⟨bound, Nat.le_succ_of_le (aligned.issued other).2⟩
    · rw [same other ne]
      exact aligned.issued other
  · intro other
    by_cases ne : other = process
    · subst ne
      have follows := aligned.operation other _ operation waiting
      rw [← aligned.control other] at follows
      rw [own, controlAfter_take_succ program first found,
        ← aligned.control other]
      exact program.control_resume follows payload
    · rw [same other ne]
      exact aligned.control other
  · intro other index operation issuedThere
    exact aligned.operation other index operation
      ((history index operation other).mp issuedThere)
  · intro index value there
    obtain ⟨known, follows, all, computed⟩ := aligned.outcome index value there
    refine ⟨known, follows, fun other waits => ?_, ?_⟩
    · exact (history index known other).mpr (all other waits)
    · rw [contributions]
      exact computed

/-- One step of a process that does not fail. -/
theorem Aligned.step (aligned : Aligned program first outcomes members)
    {after : Members Process State Operation Payload}
    (prepared : ∀ operation,
      program.next (program.control (members process).state) = some operation →
        (program.prepare (members process).state).isSome)
    (step : program.Step process members after) :
    ∃ outcomes, Aligned program first outcomes after := by
  cases step with
  | issue running free next _ => exact ⟨outcomes, aligned.issue free next⟩
  | @fail operation running free next unprepared =>
      have some := prepared operation next
      rw [unprepared] at some
      cases some
  | @complete operation waiting others =>
      have follows := aligned.operation process _ operation waiting
      by_cases known : (members process).completed < outcomes.length
      · -- another process has completed the operation before
        have found := List.getElem?_eq_getElem known
        obtain ⟨same, next, _, computed⟩ := aligned.outcome _ _ found
        rw [follows] at next
        cases next
        rw [← computed]
        exact ⟨outcomes, aligned.complete waiting found⟩
      · have last : (members process).completed = outcomes.length :=
          Nat.le_antisymm (aligned.completed process) (Nat.le_of_not_lt known)
        rw [last] at waiting others
        rw [last, List.take_length] at follows
        have extended := aligned.extend follows others
        rw [← last] at waiting
        refine ⟨_, extended.complete waiting ?_⟩
        rw [last, List.getElem?_concat_length]

/-- In a run without failures all processes follow one sequence of
outcomes. -/
theorem Reaches.aligned {meets : State → Prop} {states : Process → State}
    (run : program.Reaches meets states members)
    (same : ∀ process, program.control (states process) = first)
    (prepared : ∀ state operation, meets state →
      program.next (program.control state) = some operation →
        (program.prepare state).isSome) :
    ∃ outcomes, Aligned program first outcomes members := by
  induction run with
  | refl =>
      refine ⟨[], ?_⟩
      constructor
      · intro process
        rfl
      · intro process
        exact Nat.le_refl 0
      · intro process
        exact ⟨Nat.le_refl 0, Nat.zero_le 1⟩
      · exact same
      · intro process index operation ⟨payload, found⟩
        cases found
      · intro index payload found
        cases found
  | tail _ step ih =>
      obtain ⟨outcomes, aligned⟩ := ih
      obtain ⟨process, meeting, step⟩ := step
      exact aligned.step (fun operation => prepared _ operation meeting) step

/-! ## Agreement -/

omit [Inhabited Payload] [DecidableEq Process] in
theorem operations_getElem? {process : Process} {index : Nat}
    {operation : Operation} :
    (members process).operations[index]? = some operation ↔
      HasIssued members index operation process := by
  rw [Member.operations, List.getElem?_map, Option.map_eq_some_iff]
  constructor
  · intro ⟨entry, found, same⟩
    exact ⟨entry.2, by rw [found, ← same]⟩
  · intro ⟨payload, found⟩
    exact ⟨(operation, payload), found, rfl⟩

omit [Inhabited Payload] [DecidableEq Process] in
theorem exists_hasIssued {process : Process} {index : Nat}
    (inside : index < (members process).issued.length) :
    ∃ operation, HasIssued members index operation process :=
  ⟨_, _, List.getElem?_eq_getElem inside⟩

omit [DecidableEq Process] in
/-- Processes that have completed equally many operations have the same
control. -/
theorem Aligned.control_eq (aligned : Aligned program first outcomes members)
    {one other : Process}
    (level : (members one).completed = (members other).completed) :
    program.control (members one).state =
      program.control (members other).state := by
  rw [aligned.control, aligned.control, level]

omit [DecidableEq Process] in
theorem Aligned.operation_eq (aligned : Aligned program first outcomes members)
    {one other : Process} {index : Nat} {operation operation' : Operation}
    (issued : HasIssued members index operation one)
    (issued' : HasIssued members index operation' other) :
    operation = operation' := by
  have follows := aligned.operation one index operation issued
  rw [aligned.operation other index operation' issued'] at follows
  exact (Option.some.inj follows).symm

omit [DecidableEq Process] in
/-- Of two processes, one has issued the operations of the other and perhaps
more. -/
theorem Aligned.operations_prefix
    (aligned : Aligned program first outcomes members) {one other : Process}
    (shorter : (members one).issued.length ≤ (members other).issued.length) :
    (members one).operations <+: (members other).operations := by
  rw [List.prefix_iff_getElem?]
  intro index inside
  rw [Member.operations, List.length_map] at inside
  obtain ⟨operation, there⟩ := exists_hasIssued (inside.trans_le shorter)
  have here := operations_getElem?.mp (List.getElem?_eq_getElem
    (l := (members one).operations) (by simpa [Member.operations] using inside))
  rw [aligned.operation_eq here there]
  exact operations_getElem?.mpr there

/-- A process that cannot step has issued its next operation. -/
theorem Aligned.hasIssued_of_stuck
    (aligned : Aligned program first outcomes members)
    (stuck : ∀ process after, ¬ program.Step process members after)
    {process : Process} {operation : Operation}
    (next : program.next (program.control (members process).state) =
      some operation) :
    HasIssued members (members process).completed operation process := by
  have bounds := aligned.issued process
  have busy : (members process).issued.length ≠ (members process).completed := by
    intro free
    cases prepared : program.prepare (members process).state with
    | none =>
        exact stuck process _ (.fail (aligned.running process) free next prepared)
    | some payload =>
        exact stuck process _ (.issue (aligned.running process) free next prepared)
  obtain ⟨issued, found⟩ := exists_hasIssued
    (show (members process).completed < (members process).issued.length by omega)
  have follows := aligned.operation process _ issued found
  rw [← aligned.control process, next] at follows
  cases follows
  exact found

/-- When no process can step, none has anything left to do. -/
theorem Aligned.next_eq_none [Finite Process]
    (aligned : Aligned program first outcomes members)
    (stuck : ∀ process after, ¬ program.Step process members after)
    {least : Process}
    (fewest : ∀ other,
      (members least).completed ≤ (members other).completed) :
    program.next (program.control (members least).state) = none := by
  cases next : program.next (program.control (members least).state) with
  | none => rfl
  | some operation =>
      have issued : ∀ other,
          HasIssued members (members least).completed operation other := by
        intro other
        rcases (fewest other).lt_or_eq with ahead | level
        · obtain ⟨issued, found⟩ := exists_hasIssued
            (ahead.trans_le (aligned.issued other).1)
          rw [aligned.operation_eq (aligned.hasIssued_of_stuck stuck next) found]
          exact found
        · rw [level]
          apply aligned.hasIssued_of_stuck stuck
          rw [← aligned.control_eq level]
          exact next
      exact (stuck least _ (.complete (issued least) fun other _ =>
        issued other)).elim

/-- When no process can step, all have ended and have issued the same
operations. -/
theorem Aligned.ended [Finite Process]
    (aligned : Aligned program first outcomes members)
    (stuck : ∀ process after, ¬ program.Step process members after)
    (process other : Process) :
    program.Ended (members process) ∧
      (members process).operations = (members other).operations := by
  obtain ⟨least, fewest⟩ := @Finite.exists_min _ _ _ ⟨process⟩ _ fun process =>
    (members process).completed
  have none := aligned.next_eq_none stuck fewest
  have level : ∀ other,
      (members other).issued.length = (members least).completed ∧
        (members other).completed = (members least).completed := by
    intro other
    have bounds := aligned.issued other
    have few : (members other).issued.length ≤ (members least).completed := by
      by_contra more
      obtain ⟨operation, found⟩ := exists_hasIssued (not_le.mp more)
      have follows := aligned.operation other _ operation found
      rw [← aligned.control least, none] at follows
      cases follows
    have least := fewest other
    omega
  constructor
  · refine ⟨aligned.running process, ?_, ?_⟩
    · rw [(level process).1, (level process).2]
    · rw [aligned.control_eq (level process).2]
      exact none
  · have same : (members process).issued.length = (members other).issued.length :=
      (level process).1.trans (level other).1.symm
    apply (aligned.operations_prefix same.le).eq_of_length
    rw [Member.operations, Member.operations, List.length_map, List.length_map,
      same]

end Alignment

end CollectiveProgram

end Concurrente.Library
