import Concurrente.WebServer.Calculator.Prime

/-!
# Prime factorization

`PrimeFactCalculator::processNumber` divides out the two and then the odd
numbers that pass the primality test.  The bound of its loop shrinks with the
number that is left.
-/

namespace Concurrente.WebServer

open Library.TrialDivision

/-- `PrimeFactCalculator::divideWhileDivisible`, entered with a count.  Zero
and a factor of one stay divisible. -/
def divideWhileDivisible (number factor primeFactorCount : Int) :
    Checked (Int × Int) :=
  if number.tmod factor = 0 then
    if number = 0 ∨ factor.natAbs ≤ 1 then .error .endless
    else
      divideWhileDivisible (number.tdiv factor) factor (primeFactorCount + 1)
  else .ok (primeFactorCount, number)
termination_by number.natAbs
decreasing_by
  rename_i proper
  rw [not_or, not_le] at proper
  rw [Int.natAbs_tdiv]
  exact Nat.div_lt_self (Int.natAbs_pos.mpr proper.1) proper.2

/-- The variables of `PrimeFactCalculator::processNumber`. -/
structure Factoring where
  number : Int
  primeFactors : List Int
  primeFactorsCount : Int
  deriving DecidableEq, Repr

/-- `PrimeFactCalculator::logPrimeFactor` and the increment that follows it. -/
def Factoring.logPrimeFactor (state : Factoring) (primeFactor : Int) :
    Checked Factoring :=
  (divideWhileDivisible state.number primeFactor 0).map fun (count, number) =>
    { number := number
      primeFactors := state.primeFactors ++ [primeFactor, count]
      primeFactorsCount := state.primeFactorsCount + 1 }

/-- The only even prime is divided out before the loop. -/
def Factoring.logTwo (state : Factoring) : Checked Factoring :=
  if state.number.tmod 2 = 0 then state.logPrimeFactor 2 else .ok state

/-- The body of the loop over the odd factors. -/
def Factoring.tryFactor (state : Factoring) (factor : Int) : Checked Factoring :=
  if state.number.tmod factor ≠ 0 then .ok state
  else
    match isPrime factor with
    | .error fault => .error fault
    | .ok false => .ok state
    | .ok true => state.logPrimeFactor factor

/-- `factor <= sqrt(number)` with the exact root, for a positive factor. -/
def LeSqrt (factor number : Int) : Prop := factor * factor ≤ number

instance (factor number : Int) : Decidable (LeSqrt factor number) :=
  inferInstanceAs (Decidable (_ ≤ _))

theorem leSqrt_iff {factor number : Int} (positive : 0 < factor) :
    LeSqrt factor number ↔ (factor : ℝ) ≤ √(number : ℝ) := by
  rw [Real.le_sqrt' (by exact_mod_cast positive), pow_two, LeSqrt]
  norm_cast

theorem leSqrt_natCast {factor number : Nat} :
    LeSqrt factor number ↔ factor * factor ≤ number := by
  unfold LeSqrt
  norm_cast

/-- The loop over the odd factors, entered with `factor`. -/
def Factoring.factorLoop (state : Factoring) (factor : Int) : Checked Factoring :=
  if LeSqrt factor state.number then
    match state.tryFactor factor with
    | .error fault => .error fault
    | .ok state =>
        if InSigned 64 (factor + 2) then state.factorLoop (factor + 2)
        else .error .signedOverflow
  else .ok state
termination_by (2 ^ 63 - factor).toNat
decreasing_by
  have bound : factor + 2 < 2 ^ 63 := (‹InSigned 64 (factor + 2)›).2
  omega

/-- The number that is left is a factor of its own. -/
def Factoring.logRemaining (state : Factoring) : Factoring :=
  if 1 < state.number then
    { state with
      primeFactors := state.primeFactors ++ [state.number, 1]
      primeFactorsCount := state.primeFactorsCount + 1 }
  else state

/-- `PrimeFactCalculator::processNumber`: the count it returns and the vector
it fills. -/
def PrimeFactCalculator.processNumber (number : Int) (primeFactors : List Int) :
    Checked (Int × List Int) :=
  if number ≤ 1 then .ok (0, primeFactors)
  else do
    let state ← Factoring.logTwo { number, primeFactors, primeFactorsCount := 0 }
    let state ← state.factorLoop 3
    let state := state.logRemaining
    return (state.primeFactorsCount, state.primeFactors)

/-! ## Division -/

/-- The division ends on a positive number and leaves what the factor no
longer divides. -/
theorem divideWhileDivisible_eq (number factor : Nat) (positive : 0 < number)
    (low : 2 ≤ factor) (count : Int) :
    ∃ exponent rest : Nat,
      divideWhileDivisible number factor count = .ok (count + exponent, rest) ∧
        number = factor ^ exponent * rest ∧ ¬ factor ∣ rest := by
  rw [divideWhileDivisible]
  by_cases divides : factor ∣ number
  · have proper : ¬ ((number : Int) = 0 ∨ (factor : Int).natAbs ≤ 1) := by
      simp only [Int.natAbs_natCast]
      omega
    have smaller : number / factor < number := Nat.div_lt_self positive low
    have quotient : 0 < number / factor :=
      Nat.div_pos (Nat.le_of_dvd positive divides) (by omega)
    obtain ⟨exponent, rest, computed, product, done⟩ :=
      divideWhileDivisible_eq (number / factor) factor quotient low (count + 1)
    refine ⟨exponent + 1, rest, ?_, ?_, done⟩
    · rw [if_pos (tmod_eq_zero_iff.mpr divides), if_neg proper,
        show (number : Int).tdiv factor = ((number / factor : Nat) : Int) from rfl,
        computed]
      push_cast
      ring_nf
    · rw [pow_succ, mul_right_comm, ← product, Nat.div_mul_cancel divides]
  · refine ⟨0, number, ?_, by simp, divides⟩
    rw [if_neg (tmod_eq_zero_iff.not.mpr divides)]
    simp
termination_by number

/-! ## The state of the factorization -/

/-- How a list of prime powers is stored. -/
def storedFactors (factors : List (ℕ × ℕ)) : List Int :=
  factors.flatMap fun factor => [(factor.1 : Int), (factor.2 : Int)]

theorem storedFactors_append (factors : List (ℕ × ℕ)) (p e : ℕ) :
    storedFactors (factors ++ [(p, e)]) = storedFactors factors ++ [(p : Int), (e : Int)] := by
  simp [storedFactors]

namespace Factoring

/-- The variables after some powers have been logged. -/
def logged (factors : List (ℕ × ℕ)) (rest : ℕ) : Factoring :=
  { number := rest
    primeFactors := storedFactors factors
    primeFactorsCount := factors.length }

@[simp] theorem number_logged (factors : List (ℕ × ℕ)) (rest : ℕ) :
    (logged factors rest).number = rest := rfl

variable {n bound : ℕ} {factors : List (ℕ × ℕ)} {rest : ℕ} {state : Factoring}

theorem logPrimeFactor_logged (partly : PartialFactorization n bound factors rest)
    (low : 2 ≤ bound) (divides : bound ∣ rest) :
    ∃ exponent remaining, 1 ≤ exponent ∧ rest = bound ^ exponent * remaining ∧
      ¬ bound ∣ remaining ∧
      (logged factors rest).logPrimeFactor bound =
        .ok (logged (factors ++ [(bound, exponent)]) remaining) := by
  obtain ⟨exponent, remaining, computed, product, done⟩ :=
    divideWhileDivisible_eq rest bound partly.positive low 0
  refine ⟨exponent, remaining, ?_, product, done, ?_⟩
  · by_contra none
    obtain rfl : exponent = 0 := by omega
    rw [pow_zero, one_mul] at product
    exact done (product ▸ divides)
  · simp [logPrimeFactor, logged, computed, Except.map, storedFactors_append]

theorem logTwo_logged (positive : 0 < n)
    (run : (logged [] n).logTwo = .ok state) :
    ∃ factors rest, state = logged factors rest ∧
      PartialFactorization n 3 factors rest := by
  have begun := PartialFactorization.start positive
  rw [logTwo, number_logged] at run
  by_cases even : 2 ∣ n
  · obtain ⟨exponent, rest, least, product, done, computed⟩ :=
      logPrimeFactor_logged begun (le_refl 2) even
    rw [if_pos (tmod_two_eq_zero_iff.mpr even)] at run
    refine ⟨_, rest, Except.ok.inj (run.symm.trans computed), ?_⟩
    exact begun.divideOut (le_refl 2) least product 3 (by omega)
      (noFactorBelow_three (by omega))
  · rw [if_neg (tmod_two_eq_zero_iff.not.mpr even)] at run
    refine ⟨[], n, (Except.ok.inj run).symm, ?_⟩
    exact begun.raise (by omega) (noFactorBelow_three (by omega))

/-- A candidate that divides the rest is prime, so it is logged. -/
theorem tryFactor_logged (partly : PartialFactorization n bound factors rest)
    (low : 3 ≤ bound) (oddBound : bound % 2 = 1)
    (tried : (logged factors rest).tryFactor bound = .ok state) :
    ∃ factors' rest', state = logged factors' rest' ∧
      PartialFactorization n (bound + 2) factors' rest' := by
  have odd := partly.odd low
  rw [tryFactor, number_logged] at tried
  by_cases divides : bound ∣ rest
  · have prime := partly.none.prime_of_dvd (by omega) divides
    rw [if_neg (not_not.mpr (tmod_eq_zero_iff.mpr divides))] at tried
    obtain ⟨exponent, remaining, positive, product, done, computed⟩ :=
      logPrimeFactor_logged partly (by omega) divides
    cases tested : isPrime bound with
    | error fault => simp [tested] at tried
    | ok answer =>
        have right := isPrime_natCast tested
        rw [decide_eq_true prime] at right
        subst right
        simp only [tested, computed] at tried
        have odd' : remaining % 2 = 1 := by
          have divisor : remaining ∣ rest := Dvd.intro_left _ product.symm
          have two := (partly.none.of_dvd divisor) 2 (le_refl 2) low
          omega
        have none := partly.none.of_dvd (Dvd.intro_left _ product.symm)
        refine ⟨_, _, (Except.ok.inj tried).symm, ?_⟩
        exact partly.divideOut (by omega) positive product (bound + 2)
          (by omega) (none.add_two odd' oddBound done)
  · rw [if_pos (tmod_eq_zero_iff.not.mpr divides)] at tried
    refine ⟨factors, rest, (Except.ok.inj tried).symm, ?_⟩
    exact partly.raise (by omega) (partly.none.add_two odd oddBound divides)

/-- The loop keeps the invariant and stops beyond the square root of the
rest. -/
theorem factorLoop_logged {n bound : ℕ} {factors : List (ℕ × ℕ)} {rest : ℕ}
    {state : Factoring} (partly : PartialFactorization n bound factors rest)
    (low : 3 ≤ bound) (oddBound : bound % 2 = 1)
    (run : (logged factors rest).factorLoop bound = .ok state) :
    ∃ bound' factors' rest', state = logged factors' rest' ∧
      PartialFactorization n bound' factors' rest' ∧ rest' < bound' * bound' := by
  rw [factorLoop, number_logged] at run
  by_cases more : bound * bound ≤ rest
  · rw [if_pos (leSqrt_natCast.mpr more)] at run
    cases tried : (logged factors rest).tryFactor bound with
    | error fault =>
        rw [tried] at run
        contradiction
    | ok next =>
        obtain ⟨factors', rest', rfl, later⟩ :=
          tryFactor_logged partly low oddBound tried
        rw [tried] at run
        dsimp only at run
        split at run
        next inside =>
          have belowMax : bound + 2 < 2 ^ 63 := by
            have upper := inside.2
            norm_num at upper
            omega
          exact factorLoop_logged later (by omega) (by omega) (by exact_mod_cast run)
        next => contradiction
  · rw [if_neg (leSqrt_natCast.not.mpr more)] at run
    exact ⟨bound, factors, rest, (Except.ok.inj run).symm, partly, by omega⟩
termination_by 2 ^ 63 - bound

theorem logRemaining_logged (partly : PartialFactorization n bound factors rest)
    (root : rest < bound * bound) :
    ∃ factors' rest', (logged factors rest).logRemaining = logged factors' rest' ∧
      CanonicalFactorization n factors' := by
  have positive := partly.positive
  by_cases more : 1 < rest
  · refine ⟨factors ++ [(rest, 1)], rest, ?_,
      partly.canonical_append more root⟩
    simp [logRemaining, logged, more, storedFactors_append]
  · obtain rfl : rest = 1 := by omega
    exact ⟨factors, 1, by simp [logRemaining, logged], partly.canonical⟩

end Factoring

/-! ## The result -/

theorem PrimeFactCalculator.processNumber_of_le_one {number : Int}
    (small : number ≤ 1) (primeFactors : List Int) :
    processNumber number primeFactors = .ok (0, primeFactors) :=
  if_pos small

/-- A run on a number from two on that completes. -/
theorem PrimeFactCalculator.processNumber_ok {n : ℕ} (low : 2 ≤ n) {count : Int}
    {stored : List Int} (run : processNumber n [] = .ok (count, stored)) :
    ∃ factors : List (ℕ × ℕ), CanonicalFactorization n factors ∧
      stored = storedFactors factors ∧ count = factors.length := by
  rw [processNumber, if_neg (by omega)] at run
  obtain ⟨state, two, run⟩ := bind_eq_ok.mp run
  obtain ⟨factors, rest, rfl, partly⟩ :=
    Factoring.logTwo_logged (by omega : 0 < n) two
  obtain ⟨state, loop, finished⟩ := bind_eq_ok.mp run
  obtain ⟨bound, factors', rest', rfl, later, root⟩ :=
    Factoring.factorLoop_logged partly (le_refl 3) rfl loop
  obtain ⟨canonical, last, same, factorization⟩ :=
    Factoring.logRemaining_logged later root
  rw [same] at finished
  obtain ⟨rfl, rfl⟩ := Prod.mk.inj (Except.ok.inj finished)
  exact ⟨canonical, factorization, rfl, rfl⟩

/-- Every run on an empty vector that completes stores the canonical
factorization of a number from two on, and nothing for the others. -/
theorem PrimeFactCalculator.processNumber_canonical (number : Int64) {count : Int}
    {stored : List Int} (run : processNumber number.toInt [] = .ok (count, stored)) :
    (number.toInt ≤ 1 → count = 0 ∧ stored = []) ∧
      (1 < number.toInt →
        ∃! factors : List (ℕ × ℕ),
          CanonicalFactorization number.toInt.toNat factors ∧
            stored = storedFactors factors ∧ count = factors.length) := by
  constructor
  · intro small
    rw [processNumber_of_le_one small, Except.ok.injEq, Prod.mk.injEq] at run
    exact ⟨run.1.symm, run.2.symm⟩
  · intro low
    obtain ⟨n, isNat⟩ := Int.eq_ofNat_of_zero_le (by omega : 0 ≤ number.toInt)
    rw [isNat] at run
    obtain ⟨factors, factorization, rfl, rfl⟩ := processNumber_ok (by omega) run
    rw [isNat, Int.toNat_natCast]
    refine ⟨factors, ⟨factorization, rfl, rfl⟩, ?_⟩
    rintro others ⟨another, _⟩
    exact another.unique factorization

/-- Forty-five is nine times five. -/
theorem PrimeFactCalculator.processNumber_canonical_sample :
    processNumber (45 : Int64).toInt [] = .ok (2, [3, 2, 5, 1]) ∧
      ∃! factors : List (ℕ × ℕ), CanonicalFactorization 45 factors ∧
        [3, 2, 5, 1] = storedFactors factors ∧ 2 = (factors.length : Int) := by
  have three : isPrime 3 = .ok true := by
    simp [isPrime, isPrimeFrom, InSigned]
  have division : divideWhileDivisible 45 3 0 = .ok (2, 5) := by
    iterate 3 rw [divideWhileDivisible]
    rfl
  have loop : Factoring.factorLoop ⟨45, [], 0⟩ 3 = .ok ⟨5, [3, 2], 1⟩ := by
    rw [Factoring.factorLoop]
    simp only [Factoring.tryFactor, three, Factoring.logPrimeFactor, division]
    rw [Except.map]
    simp [LeSqrt, InSigned, Factoring.factorLoop]
  have run : processNumber 45 [] = .ok (2, [3, 2, 5, 1]) := by
    simp [processNumber, Factoring.logTwo, loop, Factoring.logRemaining, bind,
      Except.bind, pure, Except.pure]
  exact ⟨run, (processNumber_canonical 45 run).2 (by decide)⟩

end Concurrente.WebServer
