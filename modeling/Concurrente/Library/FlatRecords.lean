import Mathlib

/-!
# Records in a flat array

Records of a fixed width are written one after another into one array, and a
loop whose index advances by the width reads them back.
-/

namespace Concurrente.Library

/-- The indices of `for (offset = 0; offset < length; offset += width)`. -/
def offsets (length width : Nat) : List Nat :=
  (List.range ((length + width - 1) / width)).map (· * width)

section

variable {ρ α : Type} {encode : ρ → List α} {width : Nat}

theorem length_flatMap_encode (fixed : ∀ record, (encode record).length = width)
    (records : List ρ) :
    (records.flatMap encode).length = records.length * width := by
  induction records with
  | nil => simp
  | cons record records ih =>
      rw [List.flatMap_cons, List.length_append, fixed, ih, List.length_cons,
        Nat.add_mul, Nat.one_mul, Nat.add_comm]

theorem offsets_flatMap (positive : 0 < width)
    (fixed : ∀ record, (encode record).length = width) (records : List ρ) :
    offsets (records.flatMap encode).length width =
      (List.range records.length).map (· * width) := by
  have count : (records.length * width + width - 1) / width =
      records.length := by
    rw [Nat.add_sub_assoc positive, Nat.mul_comm,
      Nat.mul_add_div positive, Nat.div_eq_of_lt (by omega), Nat.add_zero]
  rw [offsets, length_flatMap_encode fixed, count]

/-- The field of a record, read from the array. -/
theorem getD_flatMap (fixed : ∀ record, (encode record).length = width)
    (default : α) {records : List ρ} {index : Nat}
    (inside : index < records.length) {field : Nat} (bound : field < width) :
    (records.flatMap encode).getD (index * width + field) default =
      (encode records[index]).getD field default := by
  induction records generalizing index with
  | nil => cases inside
  | cons record records ih =>
      cases index with
      | zero =>
          rw [List.flatMap_cons, Nat.zero_mul, Nat.zero_add]
          exact List.getD_append _ _ _ _ (by rw [fixed]; exact bound)
      | succ index =>
          have shift : (index + 1) * width + field =
              (encode record).length + (index * width + field) := by
            rw [fixed, Nat.add_mul]
            omega
          have later := ih (Nat.lt_of_succ_lt_succ inside)
          rw [List.flatMap_cons, shift, List.getD_append_right _ _ _ _ (by omega),
            Nat.add_sub_cancel_left]
          exact later

/-- What a loop computes from each record of the array. -/
theorem map_offsets {τ : Type} (positive : 0 < width)
    (fixed : ∀ record, (encode record).length = width) {records : List ρ}
    {read : Nat → τ} {recordRead : ρ → τ}
    (agrees : ∀ index, (inside : index < records.length) →
      read (index * width) = recordRead records[index]) :
    (offsets (records.flatMap encode).length width).map read =
      records.map recordRead := by
  rw [offsets_flatMap positive fixed, List.map_map]
  apply List.ext_getElem
  · simp
  · intro index _ inside
    have bound : index < records.length := by simpa using inside
    simpa using agrees index bound

/-- A loop over the array is a loop over the records. -/
theorem foldl_offsets {σ : Type} (positive : 0 < width)
    (fixed : ∀ record, (encode record).length = width) {records : List ρ}
    {step : σ → Nat → σ} {recordStep : σ → ρ → σ}
    (agrees : ∀ state index, (inside : index < records.length) →
      step state (index * width) = recordStep state records[index])
    (state : σ) :
    (offsets (records.flatMap encode).length width).foldl step state =
      records.foldl recordStep state := by
  rw [offsets_flatMap positive fixed, List.foldl_map]
  have prefixes : ∀ count, count ≤ records.length →
      (List.range count).foldl (fun state index => step state (index * width))
          state =
        (records.take count).foldl recordStep state := by
    intro count bound
    induction count with
    | zero => simp
    | succ count ih =>
        have inside : count < records.length := bound
        rw [List.range_succ, List.foldl_append, ih (by omega),
          List.take_succ_eq_append_getElem inside, List.foldl_append]
        exact agrees _ _ inside
  rw [prefixes _ (Nat.le_refl _), List.take_length]

/-- A search through the array is a search through the records. -/
theorem find?_offsets {τ : Type} (positive : 0 < width)
    (fixed : ∀ record, (encode record).length = width) {records : List ρ}
    {test : Nat → Bool} {recordTest : ρ → Bool} {use : Nat → τ}
    {recordUse : ρ → τ} (absent : τ)
    (testAgrees : ∀ index, (inside : index < records.length) →
      test (index * width) = recordTest records[index])
    (useAgrees : ∀ index, (inside : index < records.length) →
      use (index * width) = recordUse records[index]) :
    ((offsets (records.flatMap encode).length width).find? test).elim absent use =
      (records.find? recordTest).elim absent recordUse := by
  rw [offsets_flatMap positive fixed, List.find?_map]
  cases found : records.find? recordTest with
  | none =>
      have none : (List.range records.length).find? (test ∘ (· * width)) = none := by
        rw [List.find?_eq_none] at found ⊢
        intro index member
        have inside := List.mem_range.mp member
        simpa [testAgrees index inside] using found _ (List.getElem_mem inside)
      rw [none]
      rfl
  | some record =>
      obtain ⟨accepted, index, inside, rfl, earlier⟩ :=
        List.find?_eq_some_iff_getElem.mp found
      have first : (List.range records.length).find? (test ∘ (· * width)) =
          some index := by
        rw [List.find?_range_eq_some]
        refine ⟨by simpa [testAgrees index inside] using accepted,
          List.mem_range.mpr inside, ?_⟩
        intro other before
        simpa [testAgrees other (by omega)] using earlier other before
      rw [first]
      exact useAgrees index inside

end

end Concurrente.Library
