import Concurrente.Common.SignedIntegers

/-!
# Loops over an index

`for (T i = start; i <= bound; ++i)` with an index of a signed type: the
increment is checked after every turn, the last one included.
-/

namespace Concurrente

/-- The loop, entered with the index `i` of the given number of bits. -/
def forUpTo {σ : Type} (bits : Nat) (bound : Int) (body : Int → σ → Checked σ)
    (i : Int) (state : σ) : Checked σ :=
  if i ≤ bound then
    match body i state with
    | .error fault => .error fault
    | .ok state =>
        if InSigned bits (i + 1) then forUpTo bits bound body (i + 1) state
        else .error .signedOverflow
  else .ok state
termination_by (bound + 1 - i).toNat

/-- When each turn that completes appends something to a list, the loop
appends it turn by turn. -/
theorem forUpTo_appends {σ β : Type} {bits bound : Nat}
    {body : Int → σ → Checked σ} (view : σ → List β) (added : Nat → List β)
    (appends : ∀ (j : Nat) (state state' : σ), j ≤ bound →
      body j state = .ok state' → view state' = view state ++ added j)
    (i : Nat) {state state' : σ}
    (run : forUpTo bits bound body i state = .ok state') :
    view state' =
      view state ++ (List.range' i (bound + 1 - i)).flatMap added := by
  rw [forUpTo] at run
  by_cases more : i ≤ bound
  · rw [if_pos (by exact_mod_cast more)] at run
    cases turn : body i state with
    | error fault => simp [turn] at run
    | ok next =>
        simp only [turn] at run
        split at run
        next =>
          have later := forUpTo_appends view added appends (i + 1) (by exact_mod_cast run)
          have count : bound + 1 - i = (bound + 1 - (i + 1)) + 1 := by omega
          rw [later, appends i state next more turn, count, List.range'_succ,
            List.flatMap_cons, List.append_assoc]
        next => contradiction
  · rw [if_neg (by exact_mod_cast more)] at run
    obtain rfl := Except.ok.inj run
    have none : bound + 1 - i = 0 := by omega
    simp [none]
termination_by bound + 1 - i

/-- A loop that completes has also incremented its index past the bound. -/
theorem forUpTo_inSigned {σ : Type} {bits : Nat} {bound : Int}
    {body : Int → σ → Checked σ} (i : Int) {state state' : σ}
    (more : i ≤ bound) (run : forUpTo bits bound body i state = .ok state') :
    InSigned bits (bound + 1) := by
  rw [forUpTo, if_pos more] at run
  cases turn : body i state with
  | error fault => simp [turn] at run
  | ok next =>
      simp only [turn] at run
      split at run
      next inside =>
        by_cases last : i = bound
        · exact last ▸ inside
        · exact forUpTo_inSigned (i + 1) (by omega) run
      next => contradiction
termination_by (bound + 1 - i).toNat

end Concurrente
