import Mathlib

/-!
# Programs of statements

A program is a list of statements that may fail.  A loop whose rounds each
change an entry of their own, or those of a group, changes all these entries.
-/

namespace Concurrente.Library

variable {Statement State Fault : Type*} (step : Statement → State → Except Fault State)

/-- Statements one after another, up to the first that fails. -/
def execute : List Statement → State → Except Fault State
  | [], state => .ok state
  | statement :: program, state =>
      match step statement state with
      | .ok next => execute program next
      | .error fault => .error fault

variable {step}

@[simp] theorem execute_nil (state : State) : execute step [] state = .ok state :=
  rfl

theorem execute_cons {statement : Statement} {program : List Statement}
    {state next : State} (first : step statement state = .ok next) :
    execute step (statement :: program) state = execute step program next := by
  simp only [execute, first]

theorem execute_cons_error {statement : Statement} {program : List Statement}
    {state : State} {fault : Fault} (first : step statement state = .error fault) :
    execute step (statement :: program) state = .error fault := by
  simp only [execute, first]

theorem execute_append {first second : List Statement} {state middle : State}
    (before : execute step first state = .ok middle) :
    execute step (first ++ second) state = execute step second middle := by
  induction first generalizing state with
  | nil =>
      cases before
      rfl
  | cons statement first ih =>
      rw [execute] at before
      cases done : step statement state with
      | error fault => simp [done] at before
      | ok next =>
          simp only [done] at before
          rw [List.cons_append, execute_cons done]
          exact ih before

theorem execute_append_error {first second : List Statement} {state : State}
    {fault : Fault} (before : execute step first state = .error fault) :
    execute step (first ++ second) state = .error fault := by
  induction first generalizing state with
  | nil => cases before
  | cons statement first ih =>
      rw [List.cons_append]
      cases done : step statement state with
      | error other =>
          rw [execute_cons_error done] at before ⊢
          exact before
      | ok next =>
          rw [execute_cons done] at before ⊢
          exact ih before

/-- The first part of a program that succeeds. -/
theorem execute_of_append {first second : List Statement} {state final : State}
    (done : execute step (first ++ second) state = .ok final) :
    ∃ middle, execute step first state = .ok middle := by
  cases before : execute step first state with
  | ok middle => exact ⟨middle, rfl⟩
  | error fault =>
      rw [execute_append_error before] at done
      cases done

/-- Statements that leave a state alone do so however often they come. -/
theorem execute_replicate {statement : Statement} {state : State}
    (idle : step statement state = .ok state) (count : Nat) :
    execute step (List.replicate count statement) state = .ok state := by
  induction count with
  | zero => rfl
  | succ count ih =>
      rw [List.replicate_succ, execute_cons idle]
      exact ih

/-- What each statement keeps, a program keeps. -/
theorem execute_keeps (holds : State → Prop)
    (kept : ∀ statement state next, holds state → step statement state = .ok next → holds next)
    {program : List Statement} {state final : State} (start : holds state)
    (done : execute step program state = .ok final) : holds final := by
  induction program generalizing state with
  | nil =>
      cases done
      exact start
  | cons statement program ih =>
      cases first : step statement state with
      | error fault => simp [execute_cons_error first] at done
      | ok next =>
          rw [execute_cons first] at done
          exact ih (kept statement state next start first) done

/-- What holds at the end and not at the start began to hold with some statement. -/
theorem execute_changes (holds : State → Prop) {program : List Statement}
    {state final : State} (start : ¬holds state) (last : holds final)
    (done : execute step program state = .ok final) :
    ∃ before statement after middle next,
      program = before ++ statement :: after ∧
        execute step before state = .ok middle ∧ step statement middle = .ok next ∧
        ¬holds middle ∧ holds next := by
  induction program generalizing state with
  | nil =>
      cases done
      exact absurd last start
  | cons statement program ih =>
      cases first : step statement state with
      | error fault => simp [execute_cons_error first] at done
      | ok next =>
          by_cases here : holds next
          · exact ⟨[], statement, program, state, next, rfl, rfl, first, start, here⟩
          · rw [execute_cons first] at done
            obtain ⟨before, other, after, middle, later, rfl, reached, changes⟩ :=
              ih here done
            exact ⟨statement :: before, other, after, middle, later, rfl,
              (execute_cons first).trans reached, changes⟩

/-! ## Loops over entries -/

/-- A loop whose rounds each change the entry of their own key, while the other
entries keep what the rounds rely on. -/
theorem execute_flatMap {Key Value : Type*} [DecidableEq Key]
    (write : (Key → Value) → State) (relies : (Key → Value) → Prop)
    {body : Key → List Statement} {entries after : Key → Value} {keys : List Key}
    (distinct : keys.Nodup) (start : relies entries)
    (round : ∀ key ∈ keys, ∀ current, current key = entries key → relies current →
      execute step (body key) (write current) =
          .ok (write (Function.update current key (after key))) ∧
        relies (Function.update current key (after key))) :
    execute step (keys.flatMap body) (write entries) =
      .ok (write fun key => if key ∈ keys then after key else entries key) := by
  induction keys generalizing entries with
  | nil => simp
  | cons key keys ih =>
      obtain ⟨fresh, distinct⟩ := List.nodup_cons.mp distinct
      obtain ⟨first, kept⟩ := round key List.mem_cons_self entries rfl start
      rw [List.flatMap_cons, execute_append first, ih distinct kept]
      · congr 2
        funext other
        by_cases same : other = key
        · subst same
          simp [fresh]
        · simp [same]
      · intro other member current same relied
        apply round other (List.mem_cons_of_mem key member) current _ relied
        rw [same, Function.update_of_ne]
        rintro rfl
        exact fresh member

/-- A loop that has a round for every key. -/
theorem execute_flatMap_all {Key Value : Type*} [DecidableEq Key]
    (write : (Key → Value) → State) (relies : (Key → Value) → Prop)
    {body : Key → List Statement} {entries after : Key → Value} {keys : List Key}
    (distinct : keys.Nodup) (complete : ∀ key, key ∈ keys) (start : relies entries)
    (round : ∀ key current, current key = entries key → relies current →
      execute step (body key) (write current) =
          .ok (write (Function.update current key (after key))) ∧
        relies (Function.update current key (after key))) :
    execute step (keys.flatMap body) (write entries) = .ok (write after) := by
  rw [execute_flatMap write relies distinct start fun key _ => round key]
  simp [complete]

/-- A loop for every key whose rounds rely on their own entries only. -/
theorem execute_flatMap_own {Key Value : Type*} [DecidableEq Key]
    (write : (Key → Value) → State) {body : Key → List Statement}
    {entries after : Key → Value} {keys : List Key}
    (distinct : keys.Nodup) (complete : ∀ key, key ∈ keys)
    (round : ∀ key current, current key = entries key →
      execute step (body key) (write current) =
        .ok (write (Function.update current key (after key)))) :
    execute step (keys.flatMap body) (write entries) = .ok (write after) := by
  apply execute_flatMap_all write (fun _ => True) distinct complete trivial
  intro key current same _
  exact ⟨round key current same, trivial⟩

/-- A loop over groups of keys whose rounds each change the entries of their
group. -/
theorem execute_flatMap_groups {Key Value : Type*} [DecidableEq Key]
    (write : (Key → Value) → State) {body : List Key → List Statement}
    {entries after : Key → Value} {groups : List (List Key)}
    (distinct : groups.flatten.Nodup)
    (round : ∀ group ∈ groups, ∀ current, (∀ key ∈ group, current key = entries key) →
      execute step (body group) (write current) =
        .ok (write fun key => if key ∈ group then after key else current key)) :
    execute step (groups.flatMap body) (write entries) =
      .ok (write fun key => if key ∈ groups.flatten then after key else entries key) := by
  induction groups generalizing entries with
  | nil => simp
  | cons group groups ih =>
      rw [List.flatten_cons, List.nodup_append] at distinct
      obtain ⟨-, distinct, apart⟩ := distinct
      rw [List.flatMap_cons, execute_append (round group List.mem_cons_self entries fun _ _ => rfl),
        ih distinct]
      · congr 2
        funext key
        simp only [List.flatten_cons, List.mem_append]
        by_cases later : key ∈ groups.flatten <;> by_cases here : key ∈ group <;>
          simp [later, here]
      · intro other member current same
        apply round other (List.mem_cons_of_mem group member) current
        intro key inside
        rw [same key inside, if_neg]
        intro here
        exact apart key here key (List.mem_flatten_of_mem member inside) rfl

end Concurrente.Library
