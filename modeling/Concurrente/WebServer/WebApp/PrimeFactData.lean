import Concurrente.WebServer.Calculator.PrimeFactCalculator
import Concurrente.WebServer.WebApp.CalcData

/-!
# Queries for prime factorizations

`PrimeFactData` stores primes and exponents in turn, and shows a value without
factors as an invalid number.
-/

namespace Concurrente.WebServer.PrimeFactData

open Library.TrialDivision

/-- `PrimeFactData::processQuery` on the result slot of a query. -/
def processQuery (query : Int64) (result : List Int64) : Checked (List Int64) := do
  let found ← PrimeFactCalculator.processNumber query.toInt (result.map Int64.toInt)
  return found.2.map Int64.ofInt

/-- The loop of `buildResult` over the pairs of a result: the exponent one is
not shown, and a multiplication sign, two bytes of text, stands behind every
power but the last. -/
def factorItems : List Int64 → Text
  | prime :: exponent :: rest =>
      "<span class='factor'>".toList ++ longToString prime ++ "</span>".toList ++
        (if exponent ≠ 1 then
          "<sup class='exponent'>".toList ++ longToString exponent ++ "</sup>".toList
        else []) ++
        (if rest.isEmpty then [] else [' ', '\xc3', '\x97', ' ']) ++
        factorItems rest
  | _ => []

/-- `PrimeFactData::buildResult`: what it adds to the body of the response. -/
def buildResult (value : Int64) (result : List Int64) : Text :=
  numberHead (longToString value) ++ " = \n".toList ++
    "          <span class='factorization'>".toList ++
    (if result.length / 2 = 0 then "<span class='err'>Invalid number</span>".toList
    else factorItems result) ++
    "          </span>\n".toList ++ "        </div>\n".toList

/-- Nothing is stored for a value that has no factorization. -/
theorem processQuery_of_le_one {query : Int64} (small : query.toInt ≤ 1) :
    processQuery query [] = .ok [] := by
  rw [processQuery, List.map_nil, PrimeFactCalculator.processNumber_of_le_one small]
  rfl

/-- A value from two on has a factor at least. -/
theorem length_of_processQuery {query : Int64} {stored : List Int64}
    (low : 1 < query.toInt) (run : processQuery query [] = .ok stored) :
    2 ≤ stored.length := by
  obtain ⟨n, isNat⟩ := Int.eq_ofNat_of_zero_le (by omega : 0 ≤ query.toInt)
  obtain ⟨⟨count, found⟩, computed, run⟩ := bind_eq_ok.mp run
  rw [List.map_nil, isNat] at computed
  obtain ⟨factors, factorization, rfl, _⟩ :=
    PrimeFactCalculator.processNumber_ok (by omega) computed
  obtain rfl := Except.ok.inj run
  cases factors with
  | nil =>
      have one := factorization.product
      simp only [powerProduct_nil] at one
      omega
  | cons factor factors => simp [storedFactors]

end Concurrente.WebServer.PrimeFactData
