import Concurrente.WebServer.Calculator.GoldbachCalculator
import Concurrente.WebServer.WebApp.CalcData

/-!
# Queries for Goldbach sums

`GoldbachData` stores the sums of a negative query and only their number for
the others, and shows either of them in the response.
-/

namespace Concurrente.WebServer.GoldbachData

/-- `GoldbachData::processQuery` on the result slot of a query.  The number of
sums is a `size_t` that the vector stores as an `int64_t`. -/
def processQuery (query : Int64) (result : List Int64) : Checked (List Int64) := do
  let found ← GoldbachCalculator.processNumber query.toInt (result.map Int64.toInt)
  if 0 ≤ query.toInt then return [Int64.ofNat found.1]
  else return found.2.map Int64.ofInt

/-- Two operands for an even value and three for an odd one. -/
def sumOperands (value : Int64) : Checked Nat := do
  let magnitude ← signed 64 value.toInt.natAbs
  return if magnitude.tmod 2 = 0 then 2 else 3

/-- The number of sums `buildResult` shows. -/
def sumsCount (value : Int64) (result : List Int64) : Checked UInt64 := do
  let operands ← sumOperands value
  if 0 ≤ value.toInt then
    match result with
    | [] => .error .outOfRange
    | count :: _ => return count.toUInt64
  else return UInt64.ofNat (result.length / operands)

/-- The groups of operands the loop of `sumsResponse` walks over. -/
def sumGroups (sumOperands : Nat) (result : List Int64) : List (List Int64) :=
  if 0 < sumOperands ∧ sumOperands ≤ result.length then
    result.take sumOperands :: sumGroups sumOperands (result.drop sumOperands)
  else []
termination_by result.length
decreasing_by
  rw [List.length_drop]
  omega

/-- The operands of a sum with a plus sign between them. -/
def operandTexts : List Int64 → Text
  | [] => []
  | [operand] => longToString operand
  | operand :: operands =>
      longToString operand ++ " + ".toList ++ operandTexts operands

/-- The item of one sum. -/
def sumItem (operands : List Int64) : Text :=
  "          <div class='sum-item'>".toList ++ operandTexts operands ++
    "          </div>".toList

/-- The items of some sums. -/
def sumsGrid (sums : List (List Int64)) : Text :=
  "        <div class='sums-grid'>".toList ++ sums.flatMap sumItem ++
    "        </div>".toList

/-- `GoldbachData::sumsResponse`. -/
def sumsResponse (sumOperands : Nat) (result : List Int64) : Text :=
  sumsGrid (sumGroups sumOperands result)

/-- The number of sums of a value. -/
def countItem (value : Int64) (count : UInt64) : Text :=
  numberHead (longToString value) ++ ": \n".toList ++
    "          <span class='sums-count'>".toList ++ unsignedToString count ++
    " sums</span>\n".toList ++ "        </div>".toList

/-- `GoldbachData::buildResult`: what it adds to the body of the response. -/
def buildResult (value : Int64) (result : List Int64) : Checked Text := do
  let operands ← sumOperands value
  let count ← sumsCount value result
  return countItem value count ++
    (if value.toInt < 0 ∧ 0 < count.toNat then sumsResponse operands result else [])

/-- The sums `buildResult` lists. -/
def listedSums (value : Int64) (result : List Int64) : Checked (List (List Int64)) := do
  let operands ← sumOperands value
  let count ← sumsCount value result
  return if value.toInt < 0 ∧ 0 < count.toNat then sumGroups operands result else []

/-! ## Groups of operands -/

/-- Sums of one size are found again in the vector that holds them. -/
theorem sumGroups_flatten {operands : Nat} (positive : 0 < operands)
    {sums : List (List Int64)} (lengths : ∀ sum ∈ sums, sum.length = operands) :
    sumGroups operands sums.flatten = sums := by
  induction sums with
  | nil =>
      rw [sumGroups, if_neg]
      simp only [List.flatten_nil, List.length_nil]
      omega
  | cons sum sums ih =>
      have length := lengths sum List.mem_cons_self
      have later := ih fun other member => lengths other (List.mem_cons_of_mem _ member)
      rw [sumGroups, if_pos]
      · rw [List.flatten_cons, List.take_left' length, List.drop_left' length, later]
      · rw [List.flatten_cons, List.length_append]
        omega

/-- A sum as the vector of a result holds it. -/
def storedSum (sum : List ℕ) : List Int64 :=
  sum.map fun (operand : ℕ) => Int64.ofInt operand

theorem map_ofInt_storeSums (sums : List (List ℕ)) :
    (storeSums sums).map Int64.ofInt = (sums.map storedSum).flatten := by
  induction sums with
  | nil => rfl
  | cons sum sums ih =>
      rw [List.map_cons, List.flatten_cons, ← ih]
      simp [storeSums, storedSum, Function.comp_def]

theorem operand_le {n : ℕ} {sum : List ℕ} (isSum : GoldbachSum n sum) :
    ∀ operand ∈ sum, operand ≤ n := by
  intro operand member
  cases isSum with
  | pair even primes ascending total =>
      simp only [List.mem_cons, List.not_mem_nil, or_false] at member
      omega
  | triple odd primes ascending total =>
      simp only [List.mem_cons, List.not_mem_nil, or_false] at member
      omega

theorem map_toInt_storeSums {n : ℕ} (small : n < 2 ^ 63) :
    ((storeSums (goldbachSums n)).map Int64.ofInt).map Int64.toInt =
      storeSums (goldbachSums n) := by
  rw [List.map_map, storeSums, List.map_map]
  apply List.map_congr_left
  intro operand member
  obtain ⟨sum, inside, inSum⟩ := List.mem_flatten.mp member
  have bounded := operand_le ((mem_goldbachSums n sum).mp inside) operand inSum
  simp only [Function.comp_apply]
  rw [Int64.toInt_ofInt_of_le (by omega) (by omega)]

/-! ## What a query stores -/

/-- A query that completes has an absolute value of 64 bits. -/
theorem processQuery_ok {query : Int64} {stored : List Int64}
    (run : processQuery query [] = .ok stored) :
    InSigned 64 query.toInt.natAbs ∧
      (goldbachSums query.toInt.natAbs).length < 2 ^ 63 ∧
      stored =
        if 0 ≤ query.toInt then
          [Int64.ofNat (goldbachSums query.toInt.natAbs).length]
        else (storeSums (goldbachSums query.toInt.natAbs)).map Int64.ofInt := by
  obtain ⟨⟨count, sums⟩, computed, run⟩ := bind_eq_ok.mp run
  rw [List.map_nil] at computed
  obtain ⟨magnitude, evaluated, _⟩ := bind_eq_ok.mp computed
  obtain ⟨rfl, rfl, small⟩ := GoldbachCalculator.processNumber_ok computed
  refine ⟨(signed_eq_ok evaluated).1, small, ?_⟩
  split at run
  next positive =>
    rw [if_pos positive]
    exact (Except.ok.inj run).symm
  next negative =>
    rw [if_neg negative]
    exact (Except.ok.inj run).symm

theorem natAbs_lt_of_inSigned {value : Int64}
    (inside : InSigned 64 value.toInt.natAbs) : value.toInt.natAbs < 2 ^ 63 := by
  have upper : (value.toInt.natAbs : Int) < 2 ^ 63 := inside.2
  omega

theorem sumOperands_eq {value : Int64} (inside : InSigned 64 value.toInt.natAbs) :
    sumOperands value = .ok (operandCount value.toInt.natAbs) := by
  rw [sumOperands, signed_of_inSigned inside, operandCount]
  by_cases even : value.toInt.natAbs % 2 = 0
  · have divides := tmod_two_eq_zero_iff.mpr (Nat.dvd_of_mod_eq_zero even)
    rw [if_pos even]
    simp only [bind, Except.bind, divides]
    rfl
  · have fails := tmod_two_eq_zero_iff.not.mpr (mt Nat.mod_eq_zero_of_dvd even)
    rw [if_neg even]
    simp only [bind, Except.bind, fails]
    rfl

/-- The number shown is the number of sums of the absolute value, stored or
counted. -/
theorem sumsCount_eq {query : Int64} {stored : List Int64}
    (run : processQuery query [] = .ok stored) :
    ∃ count, sumsCount query stored = .ok count ∧
      count.toNat = (goldbachSums query.toInt.natAbs).length := by
  obtain ⟨inside, small, rfl⟩ := processQuery_ok run
  have number : (UInt64.ofNat (goldbachSums query.toInt.natAbs).length).toNat =
      (goldbachSums query.toInt.natAbs).length := by
    apply UInt64.toNat_ofNat_of_lt'
    exact small.trans (by decide)
  have total := length_store_goldbachSums query.toInt.natAbs
  have operands : 0 < operandCount query.toInt.natAbs := by
    unfold operandCount
    split <;> omega
  unfold sumsCount
  rw [sumOperands_eq inside]
  by_cases positive : 0 ≤ query.toInt
  · refine ⟨_, ?_, number⟩
    simp only [bind, Except.bind, positive, if_true, pure, Except.pure]
    rfl
  · refine ⟨_, ?_, number⟩
    simp only [bind, Except.bind, positive, if_false, pure, Except.pure]
    rw [List.length_map, total, Nat.mul_div_cancel _ operands]

/-- What is listed for a negative query: its sums. -/
theorem listedSums_of_neg {query : Int64} {stored : List Int64}
    (negative : query.toInt < 0) (run : processQuery query [] = .ok stored) :
    listedSums query stored =
      .ok ((goldbachSums query.toInt.natAbs).map storedSum) := by
  obtain ⟨count, counted, number⟩ := sumsCount_eq run
  obtain ⟨inside, small, rfl⟩ := processQuery_ok run
  rw [if_neg (by omega), map_ofInt_storeSums] at counted ⊢
  rw [listedSums, sumOperands_eq inside, counted]
  simp only [bind, Except.bind, pure, Except.pure, negative, true_and, number]
  by_cases some : 0 < (goldbachSums query.toInt.natAbs).length
  · rw [if_pos some, sumGroups_flatten]
    · unfold operandCount
      split <;> omega
    · intro sum member
      obtain ⟨operands, inside, rfl⟩ := List.mem_map.mp member
      rw [storedSum, List.length_map]
      exact ((mem_goldbachSums _ operands).mp inside).length_eq
  · rw [if_neg some]
    have none := List.length_eq_zero_iff.mp (Nat.eq_zero_of_not_pos some)
    rw [none]
    rfl

theorem listedSums_of_nonneg {query : Int64} {stored : List Int64}
    (positive : 0 ≤ query.toInt) (run : processQuery query [] = .ok stored) :
    listedSums query stored = .ok [] := by
  obtain ⟨count, counted, _⟩ := sumsCount_eq run
  obtain ⟨inside, _, _⟩ := processQuery_ok run
  have notNegative : ¬ query.toInt < 0 := by omega
  rw [listedSums, sumOperands_eq inside, counted]
  simp [bind, Except.bind, pure, Except.pure, notNegative]

/-- The text built for a query that completes: the number shown and the sums
listed. -/
theorem buildResult_eq {query : Int64} {stored : List Int64}
    (run : processQuery query [] = .ok stored) :
    ∃ count sums, sumsCount query stored = .ok count ∧
      listedSums query stored = .ok sums ∧
      buildResult query stored =
        .ok (countItem query count ++
          if query.toInt < 0 ∧ 0 < count.toNat then sumsGrid sums else []) := by
  obtain ⟨count, counted, _⟩ := sumsCount_eq run
  obtain ⟨inside, _, _⟩ := processQuery_ok run
  have operands := sumOperands_eq inside
  by_cases listed : query.toInt < 0 ∧ 0 < count.toNat
  · refine ⟨count, sumGroups (operandCount query.toInt.natAbs) stored, counted, ?_, ?_⟩
    · rw [listedSums, operands, ok_bind, counted, ok_bind, if_pos listed]
      rfl
    · rw [buildResult, operands, ok_bind, counted, ok_bind, if_pos listed,
        if_pos listed, sumsResponse]
      rfl
  · refine ⟨count, [], counted, ?_, ?_⟩
    · rw [listedSums, operands, ok_bind, counted, ok_bind, if_neg listed]
      rfl
    · rw [buildResult, operands, ok_bind, counted, ok_bind, if_neg listed,
        if_neg listed]
      rfl

theorem toInt_neg_of_nonneg {query : Int64} (positive : 0 ≤ query.toInt) :
    (-query).toInt = -query.toInt := by
  have upper := query.toInt_lt
  rw [Int64.toInt_neg]
  exact Int.bmod_eq_of_le (by omega) (by omega)

/-- A query that completes stores the sums of its absolute value in
lexicographic order, or their number, and the number shown for a value is the
number of sums listed for its opposite. -/
theorem processQuery_goldbach (query : Int64) :
    (∀ stored, processQuery query [] = .ok stored →
      ∃ sums : List (List ℕ), sums.Pairwise (· < ·) ∧
        (∀ sum, sum ∈ sums ↔ GoldbachSum query.toInt.natAbs sum) ∧
        (query.toInt < 0 → stored.map Int64.toInt = storeSums sums) ∧
        (0 ≤ query.toInt →
          ∃ count : Int64, stored = [count] ∧ count.toInt = sums.length)) ∧
      (∀ counted listed, 0 ≤ query.toInt →
        processQuery query [] = .ok counted →
        processQuery (-query) [] = .ok listed →
        ∃ count sums, sumsCount query counted = .ok count ∧
          listedSums (-query) listed = .ok sums ∧ count.toNat = sums.length) := by
  constructor
  · intro stored run
    obtain ⟨inside, small, rfl⟩ := processQuery_ok run
    refine ⟨goldbachSums query.toInt.natAbs, goldbachSums_ascending _,
      mem_goldbachSums _, ?_, ?_⟩
    · intro negative
      rw [if_neg (by omega)]
      exact map_toInt_storeSums (natAbs_lt_of_inSigned inside)
    · intro positive
      rw [if_pos positive]
      exact ⟨_, rfl, Int64.toInt_ofNat_of_lt small⟩
  · intro counted listed positive run opposite
    obtain ⟨count, shown, number⟩ := sumsCount_eq run
    have value := toInt_neg_of_nonneg positive
    by_cases zero : query.toInt = 0
    · refine ⟨count, [], shown, listedSums_of_nonneg (by omega) opposite, ?_⟩
      rw [number, zero]
      rfl
    · refine ⟨count, _, shown, listedSums_of_neg (by omega) opposite, ?_⟩
      rw [number, value, Int.natAbs_neg, List.length_map]

/-- The only sum of four. -/
theorem processQuery_goldbach_sample :
    (∃ sums : List (List ℕ), sums.Pairwise (· < ·) ∧
        (∀ sum, sum ∈ sums ↔ GoldbachSum 4 sum) ∧ [2, 2] = storeSums sums) ∧
      ∃ count sums, sumsCount 4 [1] = .ok count ∧
        listedSums (-4) [2, 2] = .ok sums ∧ count.toNat = sums.length := by
  have two : isPrime 2 = .ok true := by simp [isPrime]
  have search : GoldbachCalculator.strongGoldbach 4 [] =
      .ok { goldbachSums := [2, 2], found := true } := by
    rw [GoldbachCalculator.strongGoldbach, forUpTo]
    simp [GoldbachCalculator.strongBody, whenPrime, two, SumSearch.insert, InSigned,
      forUpTo]
  have counted : processQuery 4 [] = .ok [1] := by
    simp [processQuery, GoldbachCalculator.processNumber, signed, InSigned, search,
      GoldbachCalculator.getNSums, bind, Except.bind, pure, Except.pure]
  have listed : processQuery (-4) [] = .ok [2, 2] := by
    simp [processQuery, GoldbachCalculator.processNumber, signed, InSigned, search,
      GoldbachCalculator.getNSums, bind, Except.bind, pure, Except.pure]
  constructor
  · obtain ⟨sums, ascending, all, stored, _⟩ :=
      (processQuery_goldbach (-4)).1 [2, 2] listed
    exact ⟨sums, ascending, all, stored (by decide)⟩
  · exact (processQuery_goldbach 4).2 [1] [2, 2] (by decide) counted listed

end Concurrente.WebServer.GoldbachData
