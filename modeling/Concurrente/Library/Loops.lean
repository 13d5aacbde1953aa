import Mathlib

/-!
# Loops

Two kinds of loops: over the items of a list, with steps that only go down in
some order, and with a test before every round.
-/

namespace Concurrente.Library

/-! ## Steps that go down

Every step either leaves the state alone or takes it strictly below where it
was.  Such a loop cannot return to a state it has left, so it ends where it
began only if no step did anything.
-/

section Down

variable {σ ι β : Type} [Preorder β] {step : σ → ι → σ} (measure : σ → β)

/-- A loop of such steps is such a step. -/
theorem foldl_eq_or_lt
    (decreases : ∀ state item,
      step state item = state ∨ measure (step state item) < measure state)
    (state : σ) (items : List ι) :
    items.foldl step state = state ∨
      measure (items.foldl step state) < measure state := by
  induction items generalizing state with
  | nil => exact .inl rfl
  | cons item items ih =>
      rw [List.foldl_cons]
      rcases decreases state item with idle | lower
      · rw [idle]
        exact ih state
      · right
        rcases ih (step state item) with rest | further
        · rwa [rest]
        · exact further.trans lower

/-- A loop ends in the state it began with exactly when no item changes that
state. -/
theorem foldl_eq_self_iff
    (decreases : ∀ state item,
      step state item = state ∨ measure (step state item) < measure state)
    {state : σ} {items : List ι} :
    items.foldl step state = state ↔ ∀ item ∈ items, step state item = state := by
  induction items generalizing state with
  | nil => simp
  | cons item items ih =>
      rw [List.foldl_cons, List.forall_mem_cons]
      constructor
      · intro same
        have idle : step state item = state := by
          rcases decreases state item with idle | lower
          · exact idle
          · rcases foldl_eq_or_lt measure decreases (step state item) items with
              rest | further
            · exact rest.symm.trans same
            · rw [same] at further
              exact absurd lower further.not_gt
        rw [idle] at same
        exact ⟨idle, ih.mp same⟩
      · rintro ⟨idle, later⟩
        rw [idle]
        exact ih.mpr later

end Down

/-! ## Loops with a test -/

section While

variable {σ τ : Type}

/-- A loop with a test, if it ends within a number of rounds. -/
def loopWhile (test : σ → Bool) (body : σ → σ) : Nat → σ → Option σ
  | 0, state => if test state then none else some state
  | rounds + 1, state =>
      if test state then loopWhile test body rounds (body state) else some state

variable {test : σ → Bool} {body : σ → σ}

/-- The loop ends in the first state of its iterates that fails the test. -/
theorem loopWhile_eq_some_iff {rounds : Nat} {state final : σ} :
    loopWhile test body rounds state = some final ↔
      ∃ count ≤ rounds, final = body^[count] state ∧ test final = false ∧
        ∀ earlier < count, test (body^[earlier] state) = true := by
  constructor
  · intro ended
    induction rounds generalizing state with
    | zero =>
        cases more : test state with
        | true => simp [loopWhile, more] at ended
        | false =>
            simp only [loopWhile, more, Bool.false_eq_true, if_false] at ended
            cases ended
            exact ⟨0, le_rfl, rfl, more, fun earlier before => by omega⟩
    | succ rounds ih =>
        cases more : test state with
        | true =>
            rw [loopWhile, if_pos more] at ended
            obtain ⟨count, bound, same, failed, passed⟩ := ih ended
            refine ⟨count + 1, by omega, same, failed, fun earlier before => ?_⟩
            cases earlier with
            | zero => exact more
            | succ earlier => exact passed earlier (by omega)
        | false =>
            simp only [loopWhile, more, Bool.false_eq_true, if_false] at ended
            cases ended
            exact ⟨0, by omega, rfl, more, fun earlier before => by omega⟩
  · rintro ⟨count, bound, rfl, failed, passed⟩
    induction rounds generalizing state count with
    | zero =>
        obtain rfl : count = 0 := by omega
        rw [Function.iterate_zero_apply] at failed ⊢
        simp [loopWhile, failed]
    | succ rounds ih =>
        cases count with
        | zero =>
            rw [Function.iterate_zero_apply] at failed ⊢
            simp [loopWhile, failed]
        | succ count =>
            have more : test state = true := passed 0 (by omega)
            rw [loopWhile, if_pos more]
            apply ih count (by omega) failed
            intro earlier before
            exact passed (earlier + 1) (by omega)

/-- Loops whose tests agree and whose bodies keep a relation end together, in
states that are related. -/
theorem loopWhile_rel {relation : σ → τ → Prop} {otherTest : τ → Bool}
    {otherBody : τ → τ}
    (tests : ∀ state other, relation state other →
      test state = otherTest other)
    (bodies : ∀ state other, relation state other → test state = true →
      relation (body state) (otherBody other))
    {rounds : Nat} {state : σ} {other : τ} (related : relation state other) :
    Option.Rel relation (loopWhile test body rounds state)
      (loopWhile otherTest otherBody rounds other) := by
  induction rounds generalizing state other with
  | zero =>
      rw [loopWhile, loopWhile, ← tests state other related]
      cases test state with
      | true => exact .none
      | false => exact .some related
  | succ rounds ih =>
      rw [loopWhile, loopWhile, ← tests state other related]
      cases more : test state with
      | true => exact ih (bodies state other related more)
      | false => exact .some related

end While

end Concurrente.Library
