import Concurrente.Common.SignedIntegers
import Concurrente.Library.TrialDivision

/-!
# The primality test

`Prime::isPrime` divides an `int64_t` by odd candidates held in an `int`.  The
square of the candidate is computed as an `int` too, which ends the range of
numbers the test can decide.
-/

namespace Concurrente.WebServer

open Library.TrialDivision

/-- The loop of `Prime::isPrime`, entered with `factor`.  The product and the
sum are operations on `int`. -/
def isPrimeFrom (number factor : Int) : Checked Bool :=
  if InSigned 32 (factor * factor) then
    if factor * factor ≤ number then
      if number.tmod factor = 0 then .ok false
      else if InSigned 32 (factor + 2) then isPrimeFrom number (factor + 2)
      else .error .signedOverflow
    else .ok true
  else .error .signedOverflow
termination_by (46341 - factor).toNat
decreasing_by
  have bound := le_of_inSigned_mul_self ‹InSigned 32 (factor * factor)›
  omega

/-- `Prime::isPrime`. -/
def isPrime (number : Int) : Checked Bool :=
  if number ≤ 1 then .ok false
  else if number = 2 then .ok true
  else if number.tmod 2 = 0 then .ok false
  else isPrimeFrom number 3

/-- The numbers decided before the candidate leaves the range of squares of an
`int`: those below the square of the last candidate, and those with a divisor
up to it. -/
def InTestRange (number : Int) : Prop :=
  number < 46339 ^ 2 ∨ ∃ d : Nat, 2 ≤ d ∧ d ≤ 46339 ∧ (d : Int) ∣ number

theorem inSigned_square {factor : Nat} (bound : factor ≤ 46339) :
    InSigned 32 ((factor : Int) * factor) := by
  have square := Nat.mul_le_mul bound bound
  constructor
  · omega
  · zify at square
    omega

theorem tmod_eq_zero_iff {number factor : Nat} :
    (number : Int).tmod factor = 0 ↔ factor ∣ number := by
  rw [← Int.dvd_iff_tmod_eq_zero, Int.natCast_dvd_natCast]

theorem tmod_two_eq_zero_iff {number : Nat} :
    (number : Int).tmod 2 = 0 ↔ 2 ∣ number :=
  @tmod_eq_zero_iff number 2

/-- The loop with a candidate all smaller numbers have been tried for: it
decides the numbers in the range, and overflows on the others. -/
theorem isPrimeFrom_eq (number factor : Nat) (two : 2 ≤ number)
    (odd : number % 2 = 1)
    (oddFactor : factor % 2 = 1) (low : 3 ≤ factor) (high : factor ≤ 46341)
    (passed : (factor - 2) * (factor - 2) ≤ number)
    (none : NoFactorBelow factor number) :
    (InTestRange number →
        isPrimeFrom number factor = .ok (decide number.Prime)) ∧
      (¬ InTestRange number →
        isPrimeFrom number factor = .error .signedOverflow) := by
  rw [isPrimeFrom]
  by_cases inside : factor ≤ 46339
  · rw [if_pos (inSigned_square inside)]
    by_cases more : factor * factor ≤ number
    · rw [if_pos (by exact_mod_cast more)]
      by_cases divides : factor ∣ number
      · have composite := not_prime_of_mul_self_le (by omega) more divides
        have tested : InTestRange number :=
          .inr ⟨factor, by omega, inside, Int.natCast_dvd_natCast.mpr divides⟩
        rw [if_pos (tmod_eq_zero_iff.mpr divides)]
        simp [tested, composite]
      · have next : InSigned 32 ((factor : Int) + 2) := by
          constructor <;> omega
        rw [if_neg (tmod_eq_zero_iff.not.mpr divides), if_pos next]
        exact_mod_cast isPrimeFrom_eq number (factor + 2) two odd
          (by omega) (by omega) (by omega) (by simpa using more)
          (none.add_two odd oddFactor divides)
    · have prime := none.prime_of_lt_mul_self two (not_le.mp more)
      have small := Nat.mul_le_mul inside inside
      have tested : InTestRange number := .inl (by norm_num; omega)
      rw [if_neg (by exact_mod_cast more)]
      simp [tested, prime]
  · -- the last candidate failed, and the next one has no square
    obtain rfl : factor = 46341 := by omega
    have outside : ¬ InSigned 32 (((46341 : Nat) : Int) * (46341 : Nat)) := by
      decide
    have untested : ¬ InTestRange number := by
      rintro (small | ⟨d, lowD, highD, divides⟩)
      · norm_num at small passed
        omega
      · exact none d lowD (by omega) (Int.natCast_dvd_natCast.mp divides)
    rw [if_neg outside]
    simp [untested]
termination_by 46341 - factor

/-- Both answers of the test in one statement. -/
theorem isPrime_eq (number : Int) :
    (InTestRange number →
        isPrime number = .ok (decide number.toNat.Prime)) ∧
      (¬ InTestRange number → isPrime number = .error .signedOverflow) := by
  by_cases small : number ≤ 1
  · have composite : ¬ number.toNat.Prime := by
      intro prime
      have two := prime.two_le
      omega
    have tested : InTestRange number := .inl (by norm_num; omega)
    simp [isPrime, small, tested, composite]
  obtain ⟨n, rfl⟩ := Int.eq_ofNat_of_zero_le (by omega : 0 ≤ number)
  have two : 2 ≤ n := by omega
  by_cases isTwo : n = 2
  · subst isTwo
    have tested : InTestRange 2 := .inl (by norm_num)
    simp [isPrime, tested, Nat.prime_two]
  by_cases odd : n % 2 = 1
  · have notEven : ¬ ((n : Int).tmod 2 = 0) := by
      rw [tmod_two_eq_zero_iff]
      omega
    have loop := isPrimeFrom_eq n 3 two odd rfl (le_refl 3) (by omega)
      (by omega) (noFactorBelow_three odd)
    rw [isPrime, if_neg small, if_neg (by exact_mod_cast isTwo), if_neg notEven]
    exact_mod_cast loop
  · have divides : 2 ∣ n := by omega
    have even := tmod_two_eq_zero_iff.mpr divides
    have composite : ¬ n.Prime := by
      intro prime
      exact isTwo ((Nat.prime_dvd_prime_iff_eq Nat.prime_two prime).mp divides).symm
    have tested : InTestRange (n : Int) :=
      .inr ⟨2, le_refl 2, by omega, Int.natCast_dvd_natCast.mpr divides⟩
    rw [isPrime, if_neg small, if_neg (by exact_mod_cast isTwo), if_pos even]
    simp [tested, composite]

/-- A test that completes is right. -/
theorem isPrime_ok {number : Int} {answer : Bool}
    (completed : isPrime number = .ok answer) :
    InTestRange number ∧ answer = decide number.toNat.Prime := by
  by_cases tested : InTestRange number
  · rw [(isPrime_eq number).1 tested] at completed
    exact ⟨tested, (Except.ok.inj completed).symm⟩
  · rw [(isPrime_eq number).2 tested] at completed
    contradiction

theorem isPrime_natCast {number : Nat} {answer : Bool}
    (completed : isPrime number = .ok answer) : answer = decide number.Prime := by
  rw [(isPrime_ok completed).2, Int.toNat_natCast]

/-- The test completes and is right on exactly the numbers in its range: from
`46339 ^ 2` on, every number without a divisor up to 46339 makes the square of
the candidate overflow. -/
theorem isPrime_decides_iff (number : Int64) :
    isPrime number.toInt = .ok (decide number.toInt.toNat.Prime) ↔
      number.toInt < 46339 ^ 2 ∨
        ∃ d : Nat, 2 ≤ d ∧ d ≤ 46339 ∧ (d : Int) ∣ number.toInt := by
  constructor
  · intro completed
    exact (isPrime_ok completed).1
  · intro tested
    exact (isPrime_eq number.toInt).1 tested

theorem prime_mersenne_31 : Nat.Prime 2147483647 := by
  have prime : (mersenne 31).Prime :=
    lucas_lehmer_sufficiency 31 (by norm_num) (by norm_num)
  simpa [mersenne] using prime

/-- The largest `int` is prime, and its test overflows. -/
theorem isPrime_largest_int :
    Nat.Prime 2147483647 ∧
      isPrime (2147483647 : Int64).toInt = .error .signedOverflow := by
  refine ⟨prime_mersenne_31, (isPrime_eq _).2 ?_⟩
  rintro (small | ⟨d, low, high, divides⟩)
  · revert small
    decide
  · have divisor : d ∣ 2147483647 := Int.natCast_dvd_natCast.mp divides
    rcases prime_mersenne_31.eq_one_or_self_of_dvd d divisor with one | same
    · omega
    · omega

end Concurrente.WebServer
