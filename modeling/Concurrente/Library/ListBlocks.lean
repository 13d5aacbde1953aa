import Concurrente.Library.FlatRecords

/-!
# Blocks of a list and pairs of its elements

A list is cut into consecutive blocks, and the pairs of its elements are
collected block by block: the pairs inside each block, and those between the
block and the ones before it.
-/

namespace Concurrente.Library

/-! ## Blocks -/

section Blocks

variable {α : Type} (cut : Nat → Nat) (items : List α)

/-- The block with the elements from one cut to the next. -/
def block (index : Nat) : List α :=
  (items.take (cut (index + 1))).drop (cut index)

variable {cut items}

theorem flatMap_block (zero : cut 0 = 0) (monotone : Monotone cut)
    (count : Nat) :
    (List.range count).flatMap (block cut items) = items.take (cut count) := by
  induction count with
  | zero => rw [zero, List.range_zero, List.flatMap_nil, List.take_zero]
  | succ count ih =>
      have earlier : items.take (cut count) =
          (items.take (cut (count + 1))).take (cut count) := by
        rw [List.take_take, Nat.min_eq_left (monotone (Nat.le_succ count))]
      rw [List.range_succ, List.flatMap_append, List.flatMap_singleton, ih, earlier]
      exact List.take_append_drop _ _

theorem length_block {index : Nat} (inside : cut (index + 1) ≤ items.length) :
    (block cut items index).length = cut (index + 1) - cut index := by
  rw [block, List.length_drop, List.length_take, Nat.min_eq_left inside]

/-- The blocks of a cut up to the end are the whole list. -/
theorem flatMap_finRange_block {count : Nat} (zero : cut 0 = 0)
    (monotone : Monotone cut) (whole : cut count = items.length) :
    (List.finRange count).flatMap (fun index : Fin count =>
      block cut items index) = items := by
  calc (List.finRange count).flatMap (fun index : Fin count =>
          block cut items index) =
        ((List.finRange count).map Fin.val).flatMap (block cut items) :=
      (List.flatMap_map ..).symm
    _ = (List.range count).flatMap (block cut items) := by
      rw [List.map_coe_finRange_eq_range]
    _ = items := by rw [flatMap_block zero monotone, whole, List.take_length]

end Blocks

/-! ## Pairs -/

section Pairs

variable {α β : Type}

/-- The pairs of elements at two different positions, the earlier one first. -/
def pairs : List α → List (α × α)
  | [] => []
  | first :: rest => rest.map (first, ·) ++ pairs rest

/-- The pairs of an element of an earlier list and one of a later list. -/
def crossPairs (earlier later : List α) : List (α × α) :=
  later.flatMap fun second => earlier.map fun first => (first, second)

/-- A loop over the indices of a list. -/
theorem flatMap_range_length {items : List α} {step : Nat → List β}
    {use : α → List β} (agrees : ∀ index, (inside : index < items.length) →
      step index = use items[index]) :
    (List.range items.length).flatMap step = items.flatMap use := by
  induction items generalizing step with
  | nil => rfl
  | cons head tail ih =>
      rw [List.length_cons, List.range_succ_eq_map, List.flatMap_cons,
        List.flatMap_map, List.flatMap_cons, agrees 0 (by simp)]
      congr 1
      apply ih
      intro index inside
      exact agrees (index + 1) (by simpa using inside)

/-- Two nested loops, the inner one over the indices after that of the outer
one. -/
theorem flatMap_range_pairs {items : List α} {step : Nat → Nat → List β}
    {use : α × α → List β}
    (agrees : ∀ first second, (before : first < second) →
      (inside : second < items.length) →
      step first second = use (items[first], items[second])) :
    ((List.range (items.length - 1)).flatMap fun first =>
      (List.range' (first + 1) (items.length - (first + 1))).flatMap
        (step first)) = (pairs items).flatMap use := by
  induction items generalizing step with
  | nil => rfl
  | cons head tail ih =>
      have heads : (List.range' 1 tail.length).flatMap (step 0) =
          tail.flatMap fun second => use (head, second) := by
        rw [List.range'_eq_map_range, List.flatMap_map]
        apply flatMap_range_length
        intro index inside
        rw [Nat.add_comm]
        exact agrees 0 (index + 1) (by simp) (by simpa using inside)
      have rest := @ih (fun first second => step (first + 1) (second + 1))
        fun first second before inside =>
          agrees (first + 1) (second + 1) (by omega) (by simpa using inside)
      rw [pairs, List.flatMap_append, List.flatMap_map, ← heads, ← rest,
        List.length_cons, Nat.add_sub_cancel]
      cases length : tail.length with
      | zero => rfl
      | succ count =>
          rw [List.range_succ_eq_map, List.flatMap_cons, List.flatMap_map]
          congr 1
          apply List.flatMap_congr
          intro first member
          have shift : List.range' (first + 1 + 1)
              (count + 1 + 1 - (first + 1 + 1)) =
              (List.range' (first + 1) (count + 1 - (first + 1))).map (· + 1) := by
            rw [← List.range'_succ_left, Nat.add_sub_add_right]
          rw [Nat.succ_eq_add_one, shift, List.flatMap_map]

@[simp] theorem crossPairs_nil (later : List α) : crossPairs [] later = [] :=
  List.flatMap_eq_nil_iff.mpr fun _ _ => rfl

theorem crossPairs_append_perm (first second later : List α) :
    (crossPairs (first ++ second) later).Perm
      (crossPairs first later ++ crossPairs second later) := by
  simp only [crossPairs, List.map_append]
  exact (List.flatMap_append_perm ..).symm

theorem crossPairs_flatMap_perm {ι : Type} (indices : List ι)
    (part : ι → List α) (later : List α) :
    (crossPairs (indices.flatMap part) later).Perm
      (indices.flatMap fun index => crossPairs (part index) later) := by
  induction indices with
  | nil => simp
  | cons index indices ih =>
      rw [List.flatMap_cons, List.flatMap_cons]
      exact (crossPairs_append_perm _ _ _).trans (ih.append_left _)

theorem mem_pairs {items : List α} {first second : α} :
    (first, second) ∈ pairs items ↔ [first, second].Sublist items := by
  induction items with
  | nil => simp [pairs]
  | cons head tail ih =>
      rw [pairs, List.mem_append, ih, List.mem_map]
      constructor
      · intro member
        rcases member with ⟨other, inside, same⟩ | later
        · cases same
          exact (List.singleton_sublist.mpr inside).cons_cons _
        · exact later.cons head
      · intro sublist
        cases sublist with
        | cons _ later => exact .inr later
        | cons_cons _ later =>
            exact .inl ⟨second, List.singleton_sublist.mp later, rfl⟩

theorem nodup_pairs {items : List α} (nodup : items.Nodup) :
    (pairs items).Nodup := by
  induction items with
  | nil => exact List.nodup_nil
  | cons head tail ih =>
      obtain ⟨fresh, rest⟩ := List.nodup_cons.mp nodup
      rw [pairs, List.nodup_append']
      refine ⟨rest.map fun a b same => (Prod.mk.inj same).2, ih rest, ?_⟩
      intro pair left right
      obtain ⟨other, inside, same⟩ := List.mem_map.mp left
      subst same
      exact fresh ((mem_pairs.mp right).subset List.mem_cons_self)

theorem pairs_map (image : α → β) (items : List α) :
    pairs (items.map image) = (pairs items).map (Prod.map image image) := by
  induction items with
  | nil => rfl
  | cons head tail ih =>
      simp only [List.map_cons, pairs, ih, List.map_append, List.map_map]
      rfl

theorem pairs_filter (keep : α → Bool) (items : List α) :
    pairs (items.filter keep) =
      (pairs items).filter fun pair => keep pair.1 && keep pair.2 := by
  induction items with
  | nil => rfl
  | cons head tail ih =>
      cases kept : keep head with
      | true =>
          simp only [List.filter_cons, kept, if_true, pairs, ih,
            List.filter_append, List.filter_map]
          congr 2
          apply List.filter_congr
          intro second _
          simp [kept]
      | false =>
          have none : (tail.map (head, ·)).filter
              (fun pair => keep pair.1 && keep pair.2) = [] := by
            apply List.filter_eq_nil_iff.mpr
            intro pair member
            obtain ⟨second, _, same⟩ := List.mem_map.mp member
            subst same
            simp [kept]
          simp [kept, pairs, ih, none]

/-- The pairs of a strictly ordered list are its ordered pairs. -/
theorem mem_pairs_iff_lt [LinearOrder α] {items : List α}
    (ordered : items.Pairwise (· < ·)) {first second : α} :
    (first, second) ∈ pairs items ↔
      first < second ∧ first ∈ items ∧ second ∈ items := by
  rw [mem_pairs]
  constructor
  · intro sublist
    have below : first < second := by simpa using ordered.sublist sublist
    exact ⟨below, sublist.subset (by simp), sublist.subset (by simp)⟩
  · intro ⟨below, memberFirst, memberSecond⟩
    have nodup : [first, second].Nodup := by simpa using below.ne
    apply List.sublist_of_subperm_of_pairwise (r := (· < ·))
    · apply nodup.subperm
      intro item member
      rcases List.mem_cons.mp member with same | member
      · exact same ▸ memberFirst
      · exact List.mem_singleton.mp member ▸ memberSecond
    · simpa using below
    · exact ordered

/-- The pairs of a list, by the positions of the elements. -/
theorem coe_pairs_eq (items : List α) :
    (pairs items : Multiset (α × α)) =
      (Finset.univ.filter fun places : Fin items.length × Fin items.length =>
        places.1 < places.2).val.map
        fun places => (items[places.1], items[places.2]) := by
  have indices : (pairs (List.finRange items.length) :
      Multiset (Fin items.length × Fin items.length)) =
      (Finset.univ.filter fun places : Fin items.length × Fin items.length =>
        places.1 < places.2).val := by
    apply Multiset.Nodup.ext (Multiset.coe_nodup.mpr (nodup_pairs
      (List.nodup_finRange _))) (Finset.nodup _) |>.mpr
    intro places
    rw [Multiset.mem_coe, mem_pairs_iff_lt (List.sortedLT_finRange _).pairwise]
    simp
  conv_lhs => rw [← List.map_getElem_finRange items, pairs_map]
  rw [← indices, Multiset.map_coe]
  rfl

theorem flatMap_ite_singleton (keep : α → Bool) (use : α → β) (items : List α) :
    (items.flatMap fun item => if keep item then [use item] else []) =
      (items.filter keep).map use := by
  induction items with
  | nil => rfl
  | cons head tail ih =>
      cases kept : keep head <;> simp [kept, ih]

theorem flatMap_ite (keep : α → Bool) (use : α → List β) (items : List α) :
    (items.flatMap fun item => if keep item then use item else []) =
      (items.filter keep).flatMap use := by
  induction items with
  | nil => rfl
  | cons head tail ih =>
      cases kept : keep head <;> simp [kept, ih]

theorem length_pairs (items : List α) :
    (pairs items).length = items.length.choose 2 := by
  induction items with
  | nil => rfl
  | cons head tail ih =>
      rw [pairs, List.length_append, List.length_map, ih, List.length_cons,
        Nat.choose_succ_succ, Nat.choose_one_right]

/-- The pairs of two lists one after the other. -/
theorem pairs_append_perm (earlier later : List α) :
    (pairs (earlier ++ later)).Perm
      (pairs earlier ++ (pairs later ++ crossPairs earlier later)) := by
  induction earlier with
  | nil =>
      rw [crossPairs_nil, List.append_nil]
      exact .refl _
  | cons head tail ih =>
      have crossed : (crossPairs (head :: tail) later).Perm
          (later.map (head, ·) ++ crossPairs tail later) :=
        (List.map_append_flatMap_perm later (head, ·) fun second =>
          tail.map fun first => (first, second)).symm
      rw [List.cons_append, pairs, List.map_append, pairs]
      rw [← Multiset.coe_eq_coe] at ih crossed ⊢
      simp only [← Multiset.coe_add] at ih crossed ⊢
      rw [ih, crossed]
      abel

/-- The pairs of a list that is made of blocks: those inside a block, and those
of a block and the ones before it. -/
theorem pairs_flatMap_perm {ι : Type} [LinearOrder ι] {indices : List ι}
    (ordered : indices.Pairwise (· < ·)) (part : ι → List α) :
    (pairs (indices.flatMap part)).Perm
      (indices.flatMap fun index => pairs (part index) ++
        (indices.filter (· < index)).flatMap fun earlier =>
          crossPairs (part earlier) (part index)) := by
  induction indices using List.reverseRecOn with
  | nil => exact .refl _
  | append_singleton indices last ih =>
      obtain ⟨before, _, below⟩ := List.pairwise_append.mp ordered
      have lower : ∀ index ∈ indices, index < last := fun index member =>
        below index member last (List.mem_singleton_self last)
      have all : (indices ++ [last]).filter (· < last) = indices := by
        rw [List.filter_append, List.filter_eq_self.mpr (by simpa using lower)]
        simp
      have same : (indices.flatMap fun index => pairs (part index) ++
          ((indices ++ [last]).filter (· < index)).flatMap fun earlier =>
            crossPairs (part earlier) (part index)) =
          indices.flatMap fun index => pairs (part index) ++
            (indices.filter (· < index)).flatMap fun earlier =>
              crossPairs (part earlier) (part index) := by
        apply List.flatMap_congr
        intro index member
        have above : ¬ last < index := (lower index member).not_gt
        simp [List.filter_append, above]
      rw [List.flatMap_append, List.flatMap_append, List.flatMap_singleton,
        List.flatMap_singleton, same, all]
      exact (pairs_append_perm _ _).trans
        ((ih before).append ((crossPairs_flatMap_perm _ _ _).append_left _))

end Pairs

end Concurrente.Library
