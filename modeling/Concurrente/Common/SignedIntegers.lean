import Mathlib

/-!
# Signed machine integers

A signed operation whose result does not fit its type has no defined value.
Values of signed types are integers here, and an operation that can overflow
is checked against the number of bits of its type.
-/

namespace Concurrente

/-- Why an evaluation yields no value. -/
inductive ArithmeticFault where
  | signedOverflow
  /-- a loop that never ends -/
  | endless
  /-- an element outside a vector is used -/
  | outOfRange
  deriving DecidableEq, Repr

/-- Computations that may have no value. -/
abbrev Checked := Except ArithmeticFault

/-- A sequence of two computations has a value when both have one. -/
theorem bind_eq_ok {ε α β : Type} {first : Except ε α} {next : α → Except ε β}
    {result : β} :
    (first >>= next) = .ok result ↔
      ∃ value, first = .ok value ∧ next value = .ok result := by
  cases first with
  | error fault => simp [bind, Except.bind]
  | ok value => simp [bind, Except.bind]

theorem ok_bind {ε α β : Type} (value : α) (next : α → Except ε β) :
    (Except.ok value >>= next) = next value := rfl

/-- The values of a signed type of the given width. -/
def InSigned (bits : Nat) (value : Int) : Prop :=
  -2 ^ (bits - 1) ≤ value ∧ value < 2 ^ (bits - 1)

instance (bits : Nat) (value : Int) : Decidable (InSigned bits value) :=
  inferInstanceAs (Decidable (_ ∧ _))

/-- The result of an operation of a signed type. -/
def signed (bits : Nat) (value : Int) : Checked Int :=
  if InSigned bits value then .ok value else .error .signedOverflow

theorem signed_eq_ok {bits : Nat} {value result : Int}
    (evaluated : signed bits value = .ok result) :
    InSigned bits value ∧ result = value := by
  unfold signed at evaluated
  split at evaluated
  next inside => exact ⟨inside, (Except.ok.inj evaluated).symm⟩
  next => contradiction

theorem signed_of_inSigned {bits : Nat} {value : Int}
    (inside : InSigned bits value) : signed bits value = .ok value :=
  if_pos inside

/-- An `int` whose square is an `int` as well. -/
theorem le_of_inSigned_mul_self {value : Int} (inside : InSigned 32 (value * value)) :
    value ≤ 46340 := by
  have upper : value * value < 2 ^ 31 := inside.2
  nlinarith

end Concurrente
