import Mathlib

/-!
# Exact arithmetic and vectors

The simulation computes with `double`.  Its results are stated in exact
arithmetic, so numbers are the elements of an ordered field with the two
functions of the mathematical library that the code calls.
-/

namespace Concurrente.NBody

/-- Numbers, with `std::sqrt` and `std::pow`.  Of these only the zeros of the
square root matter here. -/
class RealArithmetic (α : Type) extends
    Field α, LinearOrder α, IsStrictOrderedRing α where
  sqrt : α → α
  pow : α → α → α
  sqrt_eq_zero {value : α} : 0 ≤ value → (sqrt value = 0 ↔ value = 0)

/-- `RealVector`. -/
@[ext] structure RealVector (α : Type) where
  x : α
  y : α
  z : α
  deriving DecidableEq

namespace RealVector

section Operators

variable {α : Type} [RealArithmetic α]

/-- The vector a default constructor makes. -/
instance : Zero (RealVector α) := ⟨⟨0, 0, 0⟩⟩

instance : Add (RealVector α) :=
  ⟨fun first other =>
    ⟨first.x + other.x, first.y + other.y, first.z + other.z⟩⟩

/-- Multiplication by a scalar. -/
instance : HMul (RealVector α) α (RealVector α) :=
  ⟨fun vector scalar => ⟨vector.x * scalar, vector.y * scalar, vector.z * scalar⟩⟩

instance : Sub (RealVector α) :=
  ⟨fun first other => first + other * (-1 : α)⟩

/-- `RealVector::getMagnitude`. -/
def getMagnitude (vector : RealVector α) : α :=
  RealArithmetic.sqrt
    (vector.x * vector.x + vector.y * vector.y + vector.z * vector.z)

/-- `RealVector::pow`. -/
def pow (vector : RealVector α) (exponent : α) : RealVector α :=
  ⟨RealArithmetic.pow vector.x exponent, RealArithmetic.pow vector.y exponent,
    RealArithmetic.pow vector.z exponent⟩

@[simp] theorem zero_x : (0 : RealVector α).x = 0 := rfl
@[simp] theorem zero_y : (0 : RealVector α).y = 0 := rfl
@[simp] theorem zero_z : (0 : RealVector α).z = 0 := rfl

@[simp] theorem add_x (a b : RealVector α) : (a + b).x = a.x + b.x := rfl
@[simp] theorem add_y (a b : RealVector α) : (a + b).y = a.y + b.y := rfl
@[simp] theorem add_z (a b : RealVector α) : (a + b).z = a.z + b.z := rfl

@[simp] theorem mul_x (a : RealVector α) (s : α) : (a * s).x = a.x * s := rfl
@[simp] theorem mul_y (a : RealVector α) (s : α) : (a * s).y = a.y * s := rfl
@[simp] theorem mul_z (a : RealVector α) (s : α) : (a * s).z = a.z * s := rfl

@[simp] theorem sub_x (a b : RealVector α) : (a - b).x = a.x - b.x := by
  show a.x + b.x * -1 = a.x - b.x
  ring

@[simp] theorem sub_y (a b : RealVector α) : (a - b).y = a.y - b.y := by
  show a.y + b.y * -1 = a.y - b.y
  ring

@[simp] theorem sub_z (a b : RealVector α) : (a - b).z = a.z - b.z := by
  show a.z + b.z * -1 = a.z - b.z
  ring

instance : AddCommMonoid (RealVector α) where
  add_assoc a b c := by ext <;> simp [add_assoc]
  zero_add a := by ext <;> simp
  add_zero a := by ext <;> simp
  add_comm a b := by ext <;> simp [add_comm]
  nsmul := nsmulRec

/-- The distance from one position to another one and back is the same. -/
theorem getMagnitude_sub_comm (a b : RealVector α) :
    (a - b).getMagnitude = (b - a).getMagnitude := by
  unfold getMagnitude
  congr 1
  simp only [sub_x, sub_y, sub_z]
  ring

theorem getMagnitude_sub_eq_zero (a b : RealVector α) :
    (a - b).getMagnitude = 0 ↔ a = b := by
  have squares := fun value : α => mul_self_nonneg value
  unfold getMagnitude
  rw [RealArithmetic.sqrt_eq_zero
    (add_nonneg (add_nonneg (squares _) (squares _)) (squares _))]
  constructor
  · intro zero
    have hx := squares (a - b).x
    have hy := squares (a - b).y
    have hz := squares (a - b).z
    rw [add_eq_zero_iff_of_nonneg (add_nonneg hx hy) hz,
      add_eq_zero_iff_of_nonneg hx hy] at zero
    simp only [mul_self_eq_zero, sub_x, sub_y, sub_z, sub_eq_zero] at zero
    exact RealVector.ext zero.1.1 zero.1.2 zero.2
  · rintro rfl
    simp

end Operators

end RealVector

end Concurrente.NBody
