import Concurrente.Common.CountedLoop
import Concurrente.WebServer.Calculator.Prime

/-!
# Goldbach sums

`GoldbachCalculator` enumerates the sums of two primes of an even number and
the sums of three primes of an odd one, with their operands in ascending
order.
-/

namespace Concurrente.WebServer

/-- The vector a search fills and the flag it returns. -/
structure SumSearch where
  goldbachSums : List Int
  found : Bool
  deriving DecidableEq, Repr

def SumSearch.insert (search : SumSearch) (operands : List Int) : SumSearch :=
  { goldbachSums := search.goldbachSums ++ operands, found := true }

/-- `if (!Prime::isPrime(number)) continue;` in front of the rest of a turn. -/
def whenPrime (number : Int) (search : SumSearch) (rest : Checked SumSearch) :
    Checked SumSearch :=
  match isPrime number with
  | .error fault => .error fault
  | .ok false => .ok search
  | .ok true => rest

namespace GoldbachCalculator

/-- The body of the loop of `strongGoldbach`. -/
def strongBody (number i : Int) (search : SumSearch) : Checked SumSearch :=
  whenPrime i search
    (whenPrime (number - i) search (.ok (search.insert [i, number - i])))

/-- `GoldbachCalculator::strongGoldbach`. -/
def strongGoldbach (number : Int) (goldbachSums : List Int) : Checked SumSearch :=
  forUpTo 64 (number.tdiv 2) (strongBody number) 2
    { goldbachSums, found := false }

/-- The body of the inner loop of `weakGoldbach`. -/
def weakInnerBody (number i j : Int) (search : SumSearch) : Checked SumSearch :=
  whenPrime j search <|
    let k := number - i - j
    if k < j then .ok search
    else whenPrime k search (.ok (search.insert [i, j, k]))

/-- The body of the outer loop of `weakGoldbach`. -/
def weakBody (number i : Int) (search : SumSearch) : Checked SumSearch :=
  whenPrime i search
    (forUpTo 64 ((number - i).tdiv 2) (weakInnerBody number i) i search)

/-- `GoldbachCalculator::weakGoldbach`.  The index of the outer loop is an
`int`. -/
def weakGoldbach (number : Int) (goldbachSums : List Int) : Checked SumSearch :=
  forUpTo 32 (number.tdiv 3) (weakBody number) 2 { goldbachSums, found := false }

/-- `GoldbachCalculator::getNSums`. -/
def getNSums (goldbachSums : List Int) (nElements : Nat) : Nat :=
  goldbachSums.length / nElements

/-- `GoldbachCalculator::processNumber`: the count it returns and the vector
it fills. -/
def processNumber (number : Int) (goldbachSums : List Int) :
    Checked (Nat × List Int) := do
  let number ← signed 64 number.natAbs
  if number.tmod 2 = 0 then
    let search ← strongGoldbach number goldbachSums
    return (getNSums search.goldbachSums 2, search.goldbachSums)
  else
    let search ← weakGoldbach number goldbachSums
    return (getNSums search.goldbachSums 3, search.goldbachSums)

end GoldbachCalculator

/-! ## The sums of a number -/

/-- The operands of a sum of primes in ascending order: two of them for an
even number and three for an odd one. -/
inductive GoldbachSum (n : ℕ) : List ℕ → Prop
  | pair {p q : ℕ} (even : n % 2 = 0) (primes : p.Prime ∧ q.Prime)
      (ascending : p ≤ q) (sum : p + q = n) : GoldbachSum n [p, q]
  | triple {p q r : ℕ} (odd : n % 2 = 1) (primes : p.Prime ∧ q.Prime ∧ r.Prime)
      (ascending : p ≤ q ∧ q ≤ r) (sum : p + q + r = n) : GoldbachSum n [p, q, r]

/-- The pair with the first operand `i`, if it is one. -/
def pairAt (n i : ℕ) : List (List ℕ) :=
  if i.Prime ∧ (n - i).Prime then [[i, n - i]] else []

def pairs (n : ℕ) : List (List ℕ) :=
  (List.range' 2 (n / 2 + 1 - 2)).flatMap (pairAt n)

/-- The triple with the first operands `i` and `j`, if it is one. -/
def tripleAt (n i j : ℕ) : List (List ℕ) :=
  if j.Prime ∧ j ≤ n - i - j ∧ (n - i - j).Prime then [[i, j, n - i - j]] else []

def triplesAt (n i : ℕ) : List (List ℕ) :=
  if i.Prime then
    (List.range' i ((n - i) / 2 + 1 - i)).flatMap (tripleAt n i)
  else []

def triples (n : ℕ) : List (List ℕ) :=
  (List.range' 2 (n / 3 + 1 - 2)).flatMap (triplesAt n)

theorem mem_pairAt {n i : ℕ} {sum : List ℕ} :
    sum ∈ pairAt n i ↔ i.Prime ∧ (n - i).Prime ∧ sum = [i, n - i] := by
  unfold pairAt
  split <;> simp_all

theorem mem_tripleAt {n i j : ℕ} {sum : List ℕ} :
    sum ∈ tripleAt n i j ↔ j.Prime ∧ j ≤ n - i - j ∧ (n - i - j).Prime ∧
      sum = [i, j, n - i - j] := by
  unfold tripleAt
  split <;> simp_all

theorem mem_triplesAt {n i : ℕ} {sum : List ℕ} :
    sum ∈ triplesAt n i ↔ i.Prime ∧ ∃ j, i ≤ j ∧ j ≤ (n - i) / 2 ∧
      sum ∈ tripleAt n i j := by
  unfold triplesAt
  split
  next prime =>
    simp only [prime, true_and, List.mem_flatMap, List.mem_range'_1]
    constructor
    · rintro ⟨j, bounds, member⟩
      exact ⟨j, by omega, by omega, member⟩
    · rintro ⟨j, low, high, member⟩
      exact ⟨j, by omega, member⟩
  next composite => simp [composite]

/-- The pairs of an even number, each of them once. -/
theorem mem_pairs_iff {n : ℕ} (even : n % 2 = 0) (sum : List ℕ) :
    sum ∈ pairs n ↔ GoldbachSum n sum := by
  simp only [pairs, List.mem_flatMap, List.mem_range'_1, mem_pairAt]
  constructor
  · rintro ⟨i, bounds, first, second, rfl⟩
    exact .pair even ⟨first, second⟩ (by omega) (by omega)
  · intro isSum
    cases isSum with
    | @pair p q _ primes ascending total =>
        have low := primes.1.two_le
        have rest : n - p = q := by omega
        exact ⟨p, by omega, primes.1, by rw [rest]; exact primes.2, by rw [rest]⟩
    | triple odd _ _ _ => omega

theorem mem_triples_iff {n : ℕ} (odd : n % 2 = 1) (sum : List ℕ) :
    sum ∈ triples n ↔ GoldbachSum n sum := by
  simp only [triples, List.mem_flatMap, List.mem_range'_1, mem_triplesAt,
    mem_tripleAt]
  constructor
  · rintro ⟨i, bounds, first, j, low, high, second, ordered, third, rfl⟩
    exact .triple odd ⟨first, second, third⟩ ⟨low, ordered⟩ (by omega)
  · intro isSum
    cases isSum with
    | pair even _ _ _ => omega
    | @triple p q r _ primes ascending total =>
        have low := primes.1.two_le
        have rest : n - p - q = r := by omega
        refine ⟨p, by omega, primes.1, q, ascending.1, by omega, primes.2.1, ?_, ?_, ?_⟩
        · rw [rest]
          exact ascending.2
        · rw [rest]
          exact primes.2.2
        · rw [rest]

theorem pairs_ascending (n : ℕ) : (pairs n).Pairwise (· < ·) := by
  apply List.pairwise_flatMap.mpr
  constructor
  · intro i _
    unfold pairAt
    split <;> simp
  · apply List.Pairwise.imp _ List.pairwise_lt_range'
    intro i i' smaller sum member sum' member'
    obtain ⟨_, _, rfl⟩ := mem_pairAt.mp member
    obtain ⟨_, _, rfl⟩ := mem_pairAt.mp member'
    exact .rel smaller

theorem triples_ascending (n : ℕ) : (triples n).Pairwise (· < ·) := by
  apply List.pairwise_flatMap.mpr
  constructor
  · intro i _
    unfold triplesAt
    split
    · apply List.pairwise_flatMap.mpr
      constructor
      · intro j _
        unfold tripleAt
        split <;> simp
      · apply List.Pairwise.imp _ List.pairwise_lt_range'
        intro j j' smaller sum member sum' member'
        obtain ⟨_, _, _, rfl⟩ := mem_tripleAt.mp member
        obtain ⟨_, _, _, rfl⟩ := mem_tripleAt.mp member'
        exact .cons (.rel smaller)
    · exact .nil
  · apply List.Pairwise.imp _ List.pairwise_lt_range'
    intro i i' smaller sum member sum' member'
    obtain ⟨_, j, _, _, inner⟩ := mem_triplesAt.mp member
    obtain ⟨_, j', _, _, inner'⟩ := mem_triplesAt.mp member'
    obtain ⟨_, _, _, rfl⟩ := mem_tripleAt.mp inner
    obtain ⟨_, _, _, rfl⟩ := mem_tripleAt.mp inner'
    exact .rel smaller

/-! ## What the searches store -/

/-- The operands of sums next to each other. -/
def storeSums (sums : List (List ℕ)) : List Int :=
  sums.flatten.map fun (operand : ℕ) => (operand : Int)

theorem storeSums_flatMap {α : Type} (items : List α) (sums : α → List (List ℕ)) :
    storeSums (items.flatMap sums) = items.flatMap fun item => storeSums (sums item) := by
  induction items with
  | nil => rfl
  | cons item items ih =>
      rw [List.flatMap_cons, List.flatMap_cons, ← ih]
      simp [storeSums]

theorem storeSums_singleton (sum : List ℕ) :
    storeSums [sum] = sum.map fun (operand : ℕ) => (operand : Int) := by
  simp [storeSums]

/-- A turn that completes has gone on exactly with a prime. -/
theorem whenPrime_ok {number : ℕ} {search search' : SumSearch}
    {rest : Checked SumSearch} (turn : whenPrime number search rest = .ok search') :
    (number.Prime ∧ rest = .ok search') ∨ (¬ number.Prime ∧ search' = search) := by
  cases tested : isPrime number with
  | error fault => simp [whenPrime, tested] at turn
  | ok answer =>
      have right := isPrime_natCast tested
      cases answer with
      | false =>
          refine .inr ⟨of_decide_eq_false right.symm, ?_⟩
          simpa [whenPrime, tested] using turn.symm
      | true =>
          refine .inl ⟨of_decide_eq_true right.symm, ?_⟩
          simpa [whenPrime, tested] using turn

namespace GoldbachCalculator

variable {n i j : ℕ} {search search' : SumSearch}

theorem strongBody_appends (inside : i ≤ n)
    (turn : strongBody n i search = .ok search') :
    search'.goldbachSums = search.goldbachSums ++ storeSums (pairAt n i) := by
  have rest : (n : Int) - i = ((n - i : ℕ) : Int) := by omega
  rw [strongBody, rest] at turn
  rcases whenPrime_ok turn with ⟨first, turn⟩ | ⟨composite, rfl⟩
  · rcases whenPrime_ok turn with ⟨second, turn⟩ | ⟨composite, rfl⟩
    · obtain rfl := Except.ok.inj turn
      simp [pairAt, first, second, storeSums_singleton, SumSearch.insert]
    · simp [pairAt, composite, storeSums]
  · simp [pairAt, composite, storeSums]

theorem weakInnerBody_appends (inside : i + j ≤ n)
    (turn : weakInnerBody n i j search = .ok search') :
    search'.goldbachSums = search.goldbachSums ++ storeSums (tripleAt n i j) := by
  have rest : (n : Int) - i - j = ((n - i - j : ℕ) : Int) := by omega
  rw [weakInnerBody, rest] at turn
  rcases whenPrime_ok turn with ⟨second, turn⟩ | ⟨composite, rfl⟩
  · by_cases ordered : j ≤ n - i - j
    · rw [if_neg (by omega)] at turn
      rcases whenPrime_ok turn with ⟨third, turn⟩ | ⟨composite, rfl⟩
      · obtain rfl := Except.ok.inj turn
        simp [tripleAt, second, ordered, third, storeSums_singleton,
          SumSearch.insert]
      · simp [tripleAt, composite, storeSums]
    · rw [if_pos (by omega)] at turn
      obtain rfl := Except.ok.inj turn
      simp [tripleAt, ordered, storeSums]
  · simp [tripleAt, composite, storeSums]

theorem weakBody_appends (inside : i ≤ n / 3)
    (turn : weakBody n i search = .ok search') :
    search'.goldbachSums = search.goldbachSums ++ storeSums (triplesAt n i) := by
  have half : ((n : Int) - i).tdiv 2 = (((n - i) / 2 : ℕ) : Int) := by
    rw [show (n : Int) - i = ((n - i : ℕ) : Int) by omega]
    rfl
  rw [weakBody, half] at turn
  rcases whenPrime_ok turn with ⟨first, turn⟩ | ⟨composite, rfl⟩
  · rw [triplesAt, if_pos first, storeSums_flatMap]
    apply forUpTo_appends SumSearch.goldbachSums _ _ i turn
    intro j search search' within inner
    exact weakInnerBody_appends (by omega) inner
  · simp [triplesAt, composite, storeSums]

theorem strongGoldbach_eq (run : strongGoldbach n [] = .ok search) :
    search.goldbachSums = storeSums (pairs n) := by
  rw [pairs, storeSums_flatMap]
  refine forUpTo_appends SumSearch.goldbachSums _ ?_ 2 run
  intro i search search' within turn
  exact strongBody_appends (within.trans (Nat.div_le_self n 2)) turn

theorem weakGoldbach_eq (run : weakGoldbach n [] = .ok search) :
    search.goldbachSums = storeSums (triples n) := by
  rw [triples, storeSums_flatMap]
  refine forUpTo_appends SumSearch.goldbachSums _ ?_ 2 run
  intro i search search' within turn
  exact weakBody_appends within turn

end GoldbachCalculator

/-! ## How many sums there are -/

theorem length_storeSums {sums : List (List ℕ)} {operands : ℕ}
    (lengths : ∀ sum ∈ sums, sum.length = operands) :
    (storeSums sums).length = sums.length * operands := by
  have constant : sums.map List.length = List.replicate sums.length operands := by
    apply List.eq_replicate_iff.mpr
    simpa using lengths
  rw [storeSums, List.length_map, List.length_flatten, constant,
    List.sum_replicate, smul_eq_mul]

theorem length_flatMap_le {α β : Type} {items : List α} {f : α → List β} {most : ℕ}
    (bounded : ∀ item ∈ items, (f item).length ≤ most) :
    (items.flatMap f).length ≤ items.length * most := by
  have total := List.sum_le_card_nsmul (items.map fun item => (f item).length) most
    (by simpa using bounded)
  simpa [List.length_flatMap] using total

theorem length_pairs_le (n : ℕ) : (pairs n).length ≤ n / 2 := by
  have bounded : (pairs n).length ≤
      (List.range' 2 (n / 2 + 1 - 2)).length * 1 := by
    apply length_flatMap_le
    intro i _
    unfold pairAt
    split <;> simp
  rw [List.length_range'] at bounded
  omega

theorem length_triplesAt_le (n i : ℕ) (low : 1 ≤ i) :
    (triplesAt n i).length ≤ n / 2 := by
  unfold triplesAt
  split
  · have bounded : ((List.range' i ((n - i) / 2 + 1 - i)).flatMap (tripleAt n i)).length ≤
        (List.range' i ((n - i) / 2 + 1 - i)).length * 1 := by
      apply length_flatMap_le
      intro j _
      unfold tripleAt
      split <;> simp
    rw [List.length_range'] at bounded
    omega
  · simp

theorem length_triples_le (n : ℕ) : (triples n).length ≤ n / 3 * (n / 2) := by
  have bounded : (triples n).length ≤
      (List.range' 2 (n / 3 + 1 - 2)).length * (n / 2) := by
    apply length_flatMap_le
    intro i member
    have low := (List.mem_range'_1.mp member).1
    exact length_triplesAt_le n i (by omega)
  rw [List.length_range'] at bounded
  exact bounded.trans (Nat.mul_le_mul_right _ (by omega))

/-! ## The sums of a number in order -/

/-- The sums of a number. -/
def goldbachSums (n : ℕ) : List (List ℕ) :=
  if n % 2 = 0 then pairs n else triples n

theorem mem_goldbachSums (n : ℕ) (sum : List ℕ) :
    sum ∈ goldbachSums n ↔ GoldbachSum n sum := by
  unfold goldbachSums
  split
  next even => exact mem_pairs_iff even sum
  next odd => exact mem_triples_iff (by omega) sum

theorem goldbachSums_ascending (n : ℕ) : (goldbachSums n).Pairwise (· < ·) := by
  unfold goldbachSums
  split
  · exact pairs_ascending n
  · exact triples_ascending n

/-- How many operands the sums of a number have. -/
def operandCount (n : ℕ) : ℕ := if n % 2 = 0 then 2 else 3

theorem GoldbachSum.length_eq {n : ℕ} {sum : List ℕ} (isSum : GoldbachSum n sum) :
    sum.length = operandCount n := by
  cases isSum with
  | pair even _ _ _ => simp [operandCount, even]
  | triple odd _ _ _ => simp [operandCount, odd]

theorem length_store_goldbachSums (n : ℕ) :
    (storeSums (goldbachSums n)).length = (goldbachSums n).length * operandCount n := by
  apply length_storeSums
  intro sum member
  exact ((mem_goldbachSums n sum).mp member).length_eq

namespace GoldbachCalculator

/-- A run that completes on an empty vector: it stores the sums of the
absolute value and returns their number, which is an `int64_t`. -/
theorem processNumber_ok {number : Int} {count : Nat} {stored : List Int}
    (run : processNumber number [] = .ok (count, stored)) :
    stored = storeSums (goldbachSums number.natAbs) ∧
      count = (goldbachSums number.natAbs).length ∧ count < 2 ^ 63 := by
  obtain ⟨value, evaluated, run⟩ := bind_eq_ok.mp run
  obtain ⟨inside, rfl⟩ := signed_eq_ok evaluated
  have range : number.natAbs < 2 ^ 63 := by
    have upper : (number.natAbs : Int) < 2 ^ 63 := inside.2
    omega
  have total := length_store_goldbachSums number.natAbs
  generalize number.natAbs = n at *
  by_cases even : n % 2 = 0
  · have sums : goldbachSums n = pairs n := if_pos even
    have operands : operandCount n = 2 := if_pos even
    have few := length_pairs_le n
    rw [if_pos (tmod_two_eq_zero_iff.mpr (by omega))] at run
    obtain ⟨search, found, run⟩ := bind_eq_ok.mp run
    obtain ⟨rfl, rfl⟩ := Prod.mk.inj (Except.ok.inj run)
    rw [sums, operands] at total
    rw [sums, strongGoldbach_eq found, getNSums, total]
    refine ⟨rfl, ?_, ?_⟩ <;> omega
  · have sums : goldbachSums n = triples n := if_neg even
    have operands : operandCount n = 3 := if_neg even
    have few := length_triples_le n
    rw [if_neg (tmod_two_eq_zero_iff.not.mpr (by omega))] at run
    obtain ⟨search, found, run⟩ := bind_eq_ok.mp run
    obtain ⟨rfl, rfl⟩ := Prod.mk.inj (Except.ok.inj run)
    have narrow : n / 3 < 2 ^ 31 := by
      by_contra wide
      have last : InSigned 32 (((n / 3 : ℕ) : Int) + 1) :=
        forUpTo_inSigned 2 (by omega) found
      have upper : ((n / 3 : ℕ) : Int) + 1 < 2 ^ 31 := last.2
      omega
    rw [sums, operands] at total
    rw [sums, weakGoldbach_eq found, getNSums, total]
    refine ⟨rfl, by omega, ?_⟩
    have product := Nat.mul_le_mul narrow.le (show n / 2 ≤ 3 * 2 ^ 30 by omega)
    omega

end GoldbachCalculator

end Concurrente.WebServer
