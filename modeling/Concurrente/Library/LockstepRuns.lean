import Concurrente.Library.CollectiveOperations

/-!
# Lockstep

What a process computes between two collective operations depends on its own
state and on the outcomes of the operations before, and an outcome depends on
what the processes contribute to it.  So however the processes are interleaved,
a process that has completed some operations is in the state it would be in if
all processes took every operation together.
-/

namespace Concurrente.Library

namespace CollectiveProgram

variable {Process State Control Operation Payload : Type} [Inhabited Payload]
  (program : CollectiveProgram Process State Control Operation Payload)

/-- All processes take their next operation together. -/
def together (states : Process → State) : Process → State :=
  fun process =>
    match program.next (program.control (states process)) with
    | none => states process
    | some operation =>
        program.resume (states process) (program.outcome operation fun other =>
          (program.prepare (states other)).getD default)

variable {program} {states : Process → State}

/-- What every operation keeps, processes that go together keep. -/
theorem together_iterate {invariant : State → Prop}
    (kept : ∀ {state} payload, invariant state →
      invariant (program.resume state payload))
    (first : ∀ process, invariant (states process)) (count : Nat)
    (process : Process) : invariant (program.together^[count] states process) := by
  induction count generalizing process with
  | zero => exact first process
  | succ count ih =>
      rw [Function.iterate_succ_apply', together]
      split
      · exact ih process
      · exact kept _ (ih process)

theorem control_together {control : Control} {operation : Operation}
    (next : program.next control = some operation)
    (same : ∀ process, program.control (states process) = control) :
    ∃ payload, ∀ process, program.control (program.together states process) =
      program.advance control payload := by
  refine ⟨program.outcome operation fun other =>
    (program.prepare (states other)).getD default, fun process => ?_⟩
  have own : program.next (program.control (states process)) = some operation := by
    rw [same process, next]
  rw [together]
  simp only [own]
  rw [program.control_resume own, same process]

variable (program)

/-- Every process is where the processes that go together are after as many
operations, and has issued what these issue. -/
structure Lockstep (states : Process → State)
    (members : Members Process State Operation Payload) : Prop where
  state : ∀ process, (members process).state =
    program.together^[(members process).completed] states process
  issued : ∀ process index operation payload,
    (members process).issued[index]? = some (operation, payload) →
      program.next (program.control (program.together^[index] states process)) =
          some operation ∧
        program.prepare (program.together^[index] states process) = some payload

variable {program} {members : Members Process State Operation Payload}

theorem Lockstep.outcome (lockstep : Lockstep program states members)
    {index : Nat} {operation : Operation}
    (others : ∀ other, program.waitsFor operation other →
      HasIssued members index operation other) :
    program.outcome operation (contribution members index) =
      program.outcome operation fun other =>
        (program.prepare (program.together^[index] states other)).getD default := by
  apply program.outcome_congr
  intro other waits
  obtain ⟨payload, found⟩ := others other waits
  rw [(lockstep.issued other index operation payload found).2, contribution, found]
  rfl

variable [DecidableEq Process] {process : Process}

theorem Lockstep.update (lockstep : Lockstep program states members)
    {member : Member State Operation Payload}
    (state : member.state =
      program.together^[member.completed] states process)
    (issued : ∀ index operation payload,
      member.issued[index]? = some (operation, payload) →
        program.next (program.control
            (program.together^[index] states process)) = some operation ∧
          program.prepare (program.together^[index] states process) =
            some payload) :
    Lockstep program states (Function.update members process member) := by
  constructor
  · intro other
    by_cases same : other = process
    · subst same
      rw [Function.update_self]
      exact state
    · rw [Function.update_of_ne same]
      exact lockstep.state other
  · intro other index operation payload found
    by_cases same : other = process
    · subst same
      rw [Function.update_self] at found
      exact issued index operation payload found
    · rw [Function.update_of_ne same] at found
      exact lockstep.issued other index operation payload found

theorem Lockstep.step (lockstep : Lockstep program states members)
    {after : Members Process State Operation Payload}
    (step : program.Step process members after) :
    Lockstep program states after := by
  cases step with
  | @issue operation payload _ free next prepared =>
      apply lockstep.update
      · exact lockstep.state process
      intro index found value entry
      rw [List.getElem?_append] at entry
      split at entry
      · exact lockstep.issued process index found value entry
      · -- the operation that was issued just now
        obtain ⟨inside, equal⟩ := List.getElem?_eq_some_iff.mp entry
        rw [List.length_singleton] at inside
        have last : index = (members process).completed := by omega
        subst last
        rw [List.getElem_singleton] at equal
        cases equal
        rw [← lockstep.state process]
        exact ⟨next, prepared⟩
  | fail _ _ _ _ =>
      apply lockstep.update
      · exact lockstep.state process
      · exact lockstep.issued process
  | @complete operation waiting others =>
      refine lockstep.update ?_ (lockstep.issued process)
      obtain ⟨payload, found⟩ := waiting
      have next := (lockstep.issued process _ operation payload found).1
      rw [Function.iterate_succ_apply', together]
      simp only [next]
      rw [lockstep.outcome others, lockstep.state process]

/-- In every run, with or without failures, the processes are where those that
go together would be. -/
theorem Reaches.lockstep {meets : State → Prop}
    (run : program.Reaches meets states members) :
    Lockstep program states members := by
  induction run with
  | refl =>
      constructor
      · intro process
        rfl
      · intro process index operation payload found
        cases found
  | tail _ step ih =>
      obtain ⟨process, _, step⟩ := step
      exact ih.step step

/-! ## Runs in which the processes go together -/

variable [Fintype Process] {meets : State → Prop}

theorem Reaches.all {before after : Members Process State Operation Payload}
    (run : program.Reaches meets states before)
    (steps : ∀ (moved : Finset Process) (process : Process), process ∉ moved →
      meets (before process).state ∧
        program.Step process (moved.piecewise after before)
          (Function.update (moved.piecewise after before) process
            (after process))) :
    program.Reaches meets states after := by
  have reached : ∀ moved : Finset Process,
      program.Reaches meets states (moved.piecewise after before) := by
    intro moved
    induction moved using Finset.induction_on with
    | empty => simpa using run
    | insert process moved absent ih =>
        obtain ⟨met, step⟩ := steps moved process absent
        rw [Finset.piecewise_insert]
        refine ih.tail ⟨process, ?_, step⟩
        rwa [Finset.piecewise_eq_of_notMem _ _ _ absent]
  simpa using reached Finset.univ

/-- All processes have completed what they have issued. -/
def Gathered (count : Nat) (members : Members Process State Operation Payload) :
    Prop :=
  ∀ process, (members process).failed = false ∧
    (members process).issued.length = count ∧
    (members process).completed = count

/-- All processes have issued one more operation. -/
def issuing (members : Members Process State Operation Payload)
    (operation : Operation) (payload : Process → Payload) :
    Members Process State Operation Payload :=
  fun process =>
    { members process with
      issued := (members process).issued ++ [(operation, payload process)] }

variable (program) in
/-- All processes have completed an operation. -/
def completing (members : Members Process State Operation Payload)
    (operation : Operation) (count : Nat) :
    Members Process State Operation Payload :=
  fun process =>
    { members process with
      state := program.resume (members process).state
        (program.outcome operation (contribution members count))
      completed := count + 1 }

theorem Reaches.issue_all {count : Nat} {operation : Operation}
    {payload : Process → Payload} (run : program.Reaches meets states members)
    (gathered : Gathered count members)
    (next : ∀ process,
      program.next (program.control (members process).state) = some operation)
    (met : ∀ process, meets (members process).state)
    (prepared : ∀ process,
      program.prepare (members process).state = some (payload process)) :
    program.Reaches meets states (issuing members operation payload) := by
  apply run.all
  intro moved process absent
  obtain ⟨running, length, completed⟩ := gathered process
  have own : moved.piecewise (issuing members operation payload)
      members process = members process :=
    Finset.piecewise_eq_of_notMem _ _ _ absent
  refine ⟨met process, ?_⟩
  have step := @Step.issue _ _ _ _ _ _ program _ process
    (moved.piecewise (issuing members operation payload) members)
    operation (payload process)
    (by rw [own, running]) (by rw [own, length, completed])
    (by rw [own, next process]) (by rw [own, prepared process])
  rwa [own] at step

/-- The processes complete an operation that all of them have issued. -/
theorem Reaches.complete_all {count : Nat} {operation : Operation}
    (run : program.Reaches meets states members)
    (issued : ∀ process, HasIssued members count operation process)
    (completed : ∀ process, (members process).completed = count)
    (met : ∀ process, meets (members process).state) :
    program.Reaches meets states (completing program members operation count) := by
  apply run.all
  intro moved process absent
  generalize later : completing program members operation count = after
  have same : ∀ other, (moved.piecewise after members other).issued =
      (members other).issued := by
    intro other
    rw [← later]
    unfold Finset.piecewise
    split <;> rfl
  have found : ∀ other, HasIssued (moved.piecewise after members) count operation other := by
    intro other
    rw [HasIssued, same other]
    exact issued other
  have outcome : contribution (moved.piecewise after members) count =
      contribution members count := by
    funext other
    rw [contribution, contribution, same other]
  have own : moved.piecewise after members process = members process :=
    Finset.piecewise_eq_of_notMem _ _ _ absent
  have done : (moved.piecewise after members process).completed = count := by
    rw [own]
    exact completed process
  refine ⟨met process, ?_⟩
  have step := @Step.complete _ _ _ _ _ _ program _ process
    (moved.piecewise after members) operation
    (by rw [done]; exact found process) fun other _ => by rw [done]; exact found other
  rw [done, outcome, own] at step
  rw [← later] at step ⊢
  exact step

theorem Reaches.round {count : Nat} {operation : Operation}
    (run : program.Reaches meets states members)
    (gathered : Gathered count members)
    (next : ∀ process,
      program.next (program.control (members process).state) = some operation)
    (met : ∀ process, meets (members process).state)
    (prepared : ∀ process, (program.prepare (members process).state).isSome) :
    ∃ after, program.Reaches meets states after ∧ Gathered (count + 1) after := by
  have issued := run.issue_all gathered next met
    fun process => (Option.some_get (prepared process)).symm
  have found : ∀ process, HasIssued (issuing members operation
      fun process => (program.prepare (members process).state).get (prepared process))
      count operation process := by
    intro process
    refine ⟨(program.prepare (members process).state).get (prepared process), ?_⟩
    obtain ⟨-, length, -⟩ := gathered process
    rw [issuing, List.getElem?_append_right length.le, length,
      Nat.sub_self]
    rfl
  refine ⟨_, issued.complete_all found (fun process => (gathered process).2.2) met, ?_⟩
  intro process
  obtain ⟨running, length, -⟩ := gathered process
  exact ⟨running, by simp [completing, issuing, length],
    rfl⟩

/-- Processes that all come to the same operations, and meet what they have to,
can go together. -/
theorem Reaches.exists_together {count : Nat}
    (same : ∀ index < count, ∃ operation, ∀ process, program.next
      (program.control (program.together^[index] states process)) = some operation)
    (met : ∀ index < count, ∀ process,
      meets (program.together^[index] states process) ∧
        (program.prepare (program.together^[index] states process)).isSome) :
    ∃ members, program.Reaches meets states members ∧ Gathered count members := by
  induction count with
  | zero => exact ⟨start states, .refl, fun _ => ⟨rfl, rfl, rfl⟩⟩
  | succ count ih =>
      obtain ⟨members, run, gathered⟩ :=
        ih (fun index before => same index (before.trans (Nat.lt_succ_self count)))
          fun index before => met index (before.trans (Nat.lt_succ_self count))
      have state : ∀ process, (members process).state =
          program.together^[count] states process := by
        intro process
        rw [run.lockstep.state process, (gathered process).2.2]
      obtain ⟨operation, next⟩ := same count (Nat.lt_succ_self count)
      have here := met count (Nat.lt_succ_self count)
      simp only [← state] at next here
      exact run.round gathered next (fun process => (here process).1)
        fun process => (here process).2

end CollectiveProgram

end Concurrente.Library
