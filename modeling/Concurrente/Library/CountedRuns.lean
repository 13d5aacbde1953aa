import Mathlib

/-!
# Counted runs

A measure that every step lowers bounds the number of steps of every run, and
lets every run be continued to an end.
-/

namespace Concurrente.Library

variable {State : Type} {step : State → State → Prop}

/-- A run of a number of steps. -/
inductive CountedRun (step : State → State → Prop) (first : State) :
    Nat → State → Prop where
  | refl : CountedRun step first 0 first
  | tail {count : Nat} {before after : State}
      (run : CountedRun step first count before) (next : step before after) :
      CountedRun step first (count + 1) after

namespace CountedRun

variable {first last : State} {count : Nat}

theorem reaches (run : CountedRun step first count last) :
    Relation.ReflTransGen step first last := by
  induction run with
  | refl => exact .refl
  | tail _ next ih => exact ih.tail next

theorem exists_of_reaches (run : Relation.ReflTransGen step first last) :
    ∃ count, CountedRun step first count last := by
  induction run with
  | refl => exact ⟨0, .refl⟩
  | tail _ next ih =>
      obtain ⟨count, run⟩ := ih
      exact ⟨count + 1, run.tail next⟩

/-- What the states of a run are known to satisfy lets the measure fall. -/
theorem measure_add_le {measure : State → Nat} {known : State → Prop}
    (run : CountedRun step first count last)
    (holds : ∀ state, Relation.ReflTransGen step first state → known state)
    (lowers : ∀ before after, known before → step before after →
      measure after < measure before) :
    measure last + count ≤ measure first := by
  induction run with
  | refl => exact Nat.le_refl _
  | @tail count before after run next ih =>
      have less := lowers before after (holds before run.reaches) next
      omega

/-- Every state from which the measure falls has a run to an end. -/
theorem exists_end {measure : State → Nat} {known : State → Prop}
    (holds : ∀ state, Relation.ReflTransGen step first state → known state)
    (lowers : ∀ before after, known before → step before after →
      measure after < measure before) :
    ∃ last, Relation.ReflTransGen step first last ∧ ∀ after, ¬ step last after := by
  induction bound : measure first using Nat.strong_induction_on
    generalizing first with
  | _ amount ih =>
      by_cases moves : ∃ after, step first after
      · obtain ⟨after, next⟩ := moves
        have less := lowers first after (holds first .refl) next
        obtain ⟨last, run, ends⟩ := ih (measure after) (bound ▸ less)
          (fun state later => holds state (.head next later)) rfl
        exact ⟨last, .head next run, ends⟩
      · exact ⟨first, .refl, fun after next => moves ⟨after, next⟩⟩

end CountedRun

end Concurrente.Library
