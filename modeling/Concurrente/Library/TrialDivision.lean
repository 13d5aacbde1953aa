import Mathlib

/-!
# Trial division

What is known about a number once some divisors have been tried: that it has
no divisor below a bound.  The bound grows by two over odd candidates, and a
number below its square is prime.
-/

namespace Concurrente.Library.TrialDivision

/-- No number from two on and below the bound divides `n`. -/
def NoFactorBelow (bound n : ℕ) : Prop :=
  ∀ d, 2 ≤ d → d < bound → ¬ d ∣ n

variable {bound n m : ℕ}

/-- The candidates start at three once two is excluded. -/
theorem noFactorBelow_three (odd : n % 2 = 1) : NoFactorBelow 3 n := by
  intro d low high divides
  obtain rfl : d = 2 := by omega
  omega

namespace NoFactorBelow

theorem of_dvd (none : NoFactorBelow bound n) (divides : m ∣ n) :
    NoFactorBelow bound m := by
  intro d low high divisor
  exact none d low high (divisor.trans divides)

/-- An odd number has no even divisor, so the next candidate is two further. -/
theorem add_two (none : NoFactorBelow bound n) (odd : n % 2 = 1)
    (oddBound : bound % 2 = 1) (fails : ¬ bound ∣ n) :
    NoFactorBelow (bound + 2) n := by
  intro d low high divides
  by_cases below : d < bound
  · exact none d low below divides
  by_cases same : d = bound
  · exact fails (same ▸ divides)
  have even : 2 ∣ d := by omega
  have two : 2 ∣ n := even.trans divides
  omega

/-- The first divisor found is prime. -/
theorem prime_of_dvd (none : NoFactorBelow bound n) (low : 2 ≤ bound)
    (divides : bound ∣ n) : bound.Prime := by
  apply Nat.prime_def_lt'.mpr
  refine ⟨low, ?_⟩
  intro d lowD below divisor
  exact none d lowD below (divisor.trans divides)

/-- Beyond the square root no candidate is left. -/
theorem prime_of_lt_mul_self (none : NoFactorBelow bound n) (low : 2 ≤ n)
    (small : n < bound * bound) : n.Prime := by
  apply Nat.prime_def_le_sqrt.mpr
  refine ⟨low, ?_⟩
  intro d lowD root
  apply none d lowD
  by_contra far
  have square := Nat.mul_le_mul (not_lt.mp far) (not_lt.mp far)
  have rootSquare : d * d ≤ n := Nat.le_sqrt.mp root
  omega

theorem le_of_prime (none : NoFactorBelow bound n) (prime : m.Prime)
    (divides : m ∣ n) : bound ≤ m := by
  by_contra below
  exact none m prime.two_le (by omega) divides

end NoFactorBelow

/-- A divisor other than one and the number itself. -/
theorem not_prime_of_mul_self_le (low : 2 ≤ m) (small : m * m ≤ n)
    (divides : m ∣ n) : ¬ n.Prime := by
  intro prime
  rcases prime.eq_one_or_self_of_dvd m divides with one | same
  · omega
  · subst same
    have bigger := Nat.mul_le_mul_right m low
    omega

/-! ## Factorizations as lists of prime powers -/

/-- The product of a list of powers, each given by base and exponent. -/
def powerProduct (factors : List (ℕ × ℕ)) : ℕ :=
  (factors.map fun factor => factor.1 ^ factor.2).prod

@[simp] theorem powerProduct_nil : powerProduct [] = 1 := rfl

@[simp] theorem powerProduct_cons (factor : ℕ × ℕ) (factors : List (ℕ × ℕ)) :
    powerProduct (factor :: factors) =
      factor.1 ^ factor.2 * powerProduct factors := by
  simp [powerProduct]

theorem powerProduct_append (factors others : List (ℕ × ℕ)) :
    powerProduct (factors ++ others) =
      powerProduct factors * powerProduct others := by
  simp [powerProduct]

/-- Ascending bases, all of them prime, with exponents from one on. -/
structure PrimePowers (factors : List (ℕ × ℕ)) : Prop where
  ascending : (factors.map Prod.fst).Pairwise (· < ·)
  prime : ∀ factor ∈ factors, factor.1.Prime
  exponent : ∀ factor ∈ factors, 1 ≤ factor.2

/-- The canonical factorization of a number. -/
structure CanonicalFactorization (n : ℕ) (factors : List (ℕ × ℕ)) : Prop
    extends PrimePowers factors where
  product : n = powerProduct factors

namespace PrimePowers

theorem of_cons {factor : ℕ × ℕ} {factors : List (ℕ × ℕ)}
    (powers : PrimePowers (factor :: factors)) : PrimePowers factors := by
  constructor
  · exact (List.pairwise_cons.mp powers.ascending).2
  · intro other member
    exact powers.prime other (List.mem_cons_of_mem _ member)
  · intro other member
    exact powers.exponent other (List.mem_cons_of_mem _ member)

theorem append_singleton {factors : List (ℕ × ℕ)} {p e : ℕ}
    (powers : PrimePowers factors) (below : ∀ factor ∈ factors, factor.1 < p)
    (prime : p.Prime) (exponent : 1 ≤ e) : PrimePowers (factors ++ [(p, e)]) := by
  constructor
  · rw [List.map_append, List.pairwise_append]
    refine ⟨powers.ascending, by simp, ?_⟩
    intro q member last isLast
    obtain ⟨factor, inside, rfl⟩ := List.mem_map.mp member
    obtain rfl : last = p := by simpa using isLast
    exact below factor inside
  · intro factor member
    rcases List.mem_append.mp member with old | new
    · exact powers.prime factor old
    · obtain rfl := List.mem_singleton.mp new
      exact prime
  · intro factor member
    rcases List.mem_append.mp member with old | new
    · exact powers.exponent factor old
    · obtain rfl := List.mem_singleton.mp new
      exact exponent

theorem powerProduct_ne_zero {factors : List (ℕ × ℕ)}
    (powers : PrimePowers factors) : powerProduct factors ≠ 0 := by
  induction factors with
  | nil => simp
  | cons factor factors ih =>
      have base := (powers.prime factor List.mem_cons_self).pos
      rw [powerProduct_cons]
      exact Nat.mul_ne_zero (pow_pos base _).ne' (ih powers.of_cons)

theorem factorization_cons {factor : ℕ × ℕ} {factors : List (ℕ × ℕ)}
    (powers : PrimePowers (factor :: factors)) (p : ℕ) :
    (powerProduct (factor :: factors)).factorization p =
      (if factor.1 = p then factor.2 else 0) +
        (powerProduct factors).factorization p := by
  have prime := powers.prime factor List.mem_cons_self
  rw [powerProduct_cons, Nat.factorization_mul (pow_pos prime.pos _).ne'
    powers.of_cons.powerProduct_ne_zero, prime.factorization_pow]
  simp [Finsupp.single_apply]

theorem factorization_of_not_mem {factors : List (ℕ × ℕ)} {p : ℕ}
    (powers : PrimePowers factors) (absent : p ∉ factors.map Prod.fst) :
    (powerProduct factors).factorization p = 0 := by
  induction factors with
  | nil => simp
  | cons factor factors ih =>
      simp only [List.map_cons, List.mem_cons, not_or] at absent
      rw [powers.factorization_cons, if_neg (Ne.symm absent.1),
        ih powers.of_cons absent.2]

theorem factorization_of_mem {factors : List (ℕ × ℕ)} {factor : ℕ × ℕ}
    (powers : PrimePowers factors) (member : factor ∈ factors) :
    (powerProduct factors).factorization factor.1 = factor.2 := by
  induction factors with
  | nil => simp at member
  | cons first factors ih =>
      have above := (List.pairwise_cons.mp powers.ascending).1
      rw [powers.factorization_cons]
      rcases List.mem_cons.mp member with rfl | later
      · have absent : factor.1 ∉ factors.map Prod.fst := by
          intro again
          exact lt_irrefl _ (above _ again)
        simp [powers.of_cons.factorization_of_not_mem absent]
      · have smaller := above _ (List.mem_map_of_mem later)
        simp [smaller.ne, ih powers.of_cons later]

end PrimePowers

namespace CanonicalFactorization

variable {factors others : List (ℕ × ℕ)}

theorem mem_bases_iff (canonical : CanonicalFactorization n factors) (p : ℕ) :
    p ∈ factors.map Prod.fst ↔ n.factorization p ≠ 0 := by
  rw [canonical.product]
  constructor
  · intro member
    obtain ⟨factor, inside, rfl⟩ := List.mem_map.mp member
    have exponent := canonical.exponent factor inside
    rw [canonical.factorization_of_mem inside]
    omega
  · intro occurs
    by_contra absent
    exact occurs (canonical.factorization_of_not_mem absent)

theorem eq_map (canonical : CanonicalFactorization n factors) :
    factors = (factors.map Prod.fst).map fun p => (p, n.factorization p) := by
  have exponents : ∀ factor ∈ factors, n.factorization factor.1 = factor.2 := by
    intro factor member
    rw [canonical.product]
    exact canonical.factorization_of_mem member
  calc factors = factors.map id := (List.map_id factors).symm
    _ = factors.map ((fun p => (p, n.factorization p)) ∘ Prod.fst) := by
        apply List.map_congr_left
        intro factor member
        simp [exponents factor member]
    _ = (factors.map Prod.fst).map fun p => (p, n.factorization p) :=
        List.map_map.symm

/-- A number has one canonical factorization. -/
theorem unique (canonical : CanonicalFactorization n factors)
    (another : CanonicalFactorization n others) : factors = others := by
  have bases : factors.map Prod.fst = others.map Prod.fst := by
    apply List.Perm.eq_of_pairwise' canonical.ascending another.ascending
    rw [List.perm_ext_iff_of_nodup canonical.ascending.nodup another.ascending.nodup]
    intro p
    rw [canonical.mem_bases_iff, another.mem_bases_iff]
  rw [canonical.eq_map, another.eq_map, bases]

end CanonicalFactorization

/-! ## Factorizations under way -/

/-- The primes below the bound have been divided out of `n`, and the rest has
no divisor below the bound. -/
structure PartialFactorization (n bound : ℕ) (factors : List (ℕ × ℕ))
    (rest : ℕ) : Prop extends PrimePowers factors where
  below : ∀ factor ∈ factors, factor.1 < bound
  product : n = powerProduct factors * rest
  positive : 0 < rest
  none : NoFactorBelow bound rest

namespace PartialFactorization

variable {factors : List (ℕ × ℕ)} {rest : ℕ}

theorem start (positive : 0 < n) : PartialFactorization n 2 [] n where
  ascending := List.Pairwise.nil
  prime := by simp
  exponent := by simp
  below := by simp
  product := by simp
  positive := positive
  none := by
    intro d low high
    omega

theorem odd (partly : PartialFactorization n bound factors rest)
    (low : 3 ≤ bound) : rest % 2 = 1 := by
  have two := partly.none 2 (le_refl 2) low
  omega

/-- A larger bound that the rest still meets. -/
theorem raise (partly : PartialFactorization n bound factors rest)
    {later : ℕ} (larger : bound ≤ later) (none : NoFactorBelow later rest) :
    PartialFactorization n later factors rest where
  toPrimePowers := partly.toPrimePowers
  below := fun factor member => (partly.below factor member).trans_le larger
  product := partly.product
  positive := partly.positive
  none := none

/-- The bound itself divides the rest and is divided out. -/
theorem divideOut (partly : PartialFactorization n bound factors rest)
    (low : 2 ≤ bound) {exponent remaining : ℕ} (exponentPos : 1 ≤ exponent)
    (power : rest = bound ^ exponent * remaining) (larger : ℕ)
    (above : bound < larger) (none : NoFactorBelow larger remaining) :
    PartialFactorization n larger (factors ++ [(bound, exponent)]) remaining := by
  have divides : bound ∣ rest := by
    rw [power]
    exact (dvd_pow_self bound (by omega)).mul_right remaining
  have prime := partly.none.prime_of_dvd low divides
  constructor
  · exact partly.append_singleton partly.below prime exponentPos
  · intro factor member
    rcases List.mem_append.mp member with old | new
    · exact (partly.below factor old).trans above
    · obtain rfl := List.mem_singleton.mp new
      exact above
  · rw [powerProduct_append, partly.product, power]
    simp [mul_assoc]
  · apply Nat.pos_of_ne_zero
    rintro rfl
    have positive := partly.positive
    omega
  · exact none

/-- Nothing is left to divide. -/
theorem canonical (partly : PartialFactorization n bound factors 1) :
    CanonicalFactorization n factors where
  toPrimePowers := partly.toPrimePowers
  product := by simpa using partly.product

/-- What is left is a prime of its own once the bound has passed its square
root. -/
theorem canonical_append (partly : PartialFactorization n bound factors rest)
    (low : 2 ≤ rest) (root : rest < bound * bound) :
    CanonicalFactorization n (factors ++ [(rest, 1)]) := by
  have prime := partly.none.prime_of_lt_mul_self low root
  have bounded := partly.none.le_of_prime prime (dvd_refl rest)
  constructor
  · apply partly.append_singleton _ prime (le_refl 1)
    intro factor member
    exact (partly.below factor member).trans_le bounded
  · rw [powerProduct_append, partly.product]
    simp

end PartialFactorization

end Concurrente.Library.TrialDivision
