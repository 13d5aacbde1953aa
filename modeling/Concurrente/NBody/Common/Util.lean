import Concurrente.Library.ListBlocks

/-!
# Distribution of work

Work is distributed among the processes in consecutive blocks whose sizes
differ by one at most.
-/

namespace Concurrente.NBody

open Library

namespace Util

/-- `Util::calculateStart`, on numbers that an `int` can hold. -/
def calculateStart (rank workAmount workers : Int) : Int :=
  let added :=
    if rank < workAmount.tmod workers then rank else workAmount.tmod workers
  rank * workAmount.tdiv workers + added

/-- `Util::calculateFinish`. -/
def calculateFinish (rank workAmount workers : Int) : Int :=
  calculateStart (rank + 1) workAmount workers

/-- The first index of each process. -/
def start (workAmount workers rank : Nat) : Nat :=
  rank * (workAmount / workers) + min rank (workAmount % workers)

theorem calculateStart_natCast (rank workAmount workers : Nat) :
    calculateStart rank workAmount workers = start workAmount workers rank := by
  unfold calculateStart start
  rw [← Int.ofNat_tdiv, ← Int.ofNat_tmod]
  dsimp only
  split <;> omega

theorem calculateFinish_natCast (rank workAmount workers : Nat) :
    calculateFinish rank workAmount workers =
      start workAmount workers (rank + 1) :=
  calculateStart_natCast (rank + 1) workAmount workers

variable {workAmount workers : Nat}

@[simp] theorem start_zero : start workAmount workers 0 = 0 := by
  rw [start, Nat.zero_mul, Nat.zero_min]

theorem start_succ (rank : Nat) :
    start workAmount workers (rank + 1) =
      start workAmount workers rank + workAmount / workers +
        if rank < workAmount % workers then 1 else 0 := by
  unfold start
  rw [Nat.succ_mul]
  split <;> omega

theorem start_monotone : Monotone (start workAmount workers) := by
  apply monotone_nat_of_le_succ
  intro rank
  rw [start_succ, Nat.add_assoc]
  exact Nat.le_add_right _ _

/-- The blocks end where the work ends. -/
theorem start_workers (some : 0 < workers) :
    start workAmount workers workers = workAmount := by
  have rest := Nat.mod_lt workAmount some
  have division := Nat.div_add_mod workAmount workers
  rw [start, Nat.min_eq_right rest.le, division]

/-- With enough work for all, no block is empty. -/
theorem start_lt_succ (some : 0 < workers) (enough : workers ≤ workAmount)
    (rank : Nat) :
    start workAmount workers rank < start workAmount workers (rank + 1) := by
  have quotient : 0 < workAmount / workers := Nat.div_pos enough some
  rw [start_succ, Nat.add_assoc]
  exact Nat.lt_add_of_pos_right (Nat.add_pos_left quotient _)

end Util

/-- The block of a list that a process gets. -/
def assigned {β : Type} (items : List β) (size rank : Nat) : List β :=
  (items.take (Util.calculateFinish rank items.length size).toNat).drop
    (Util.calculateStart rank items.length size).toNat

section Assigned

variable {β : Type} {items : List β} {size : Nat}

theorem assigned_eq_block (rank : Nat) :
    assigned items size rank =
      block (Util.start items.length size) items rank := by
  unfold assigned block
  rw [Util.calculateFinish_natCast, Util.calculateStart_natCast,
    Int.toNat_natCast, Int.toNat_natCast]

/-- The blocks of all processes, in the order of the ranks, are the list. -/
theorem flatMap_assigned (some : 0 < size) :
    (List.finRange size).flatMap (fun rank : Fin size =>
      assigned items size rank) = items := by
  simp only [assigned_eq_block]
  exact flatMap_finRange_block Util.start_zero Util.start_monotone
    (Util.start_workers some)

theorem assigned_ne_nil (some : 0 < size) (enough : size ≤ items.length)
    (rank : Fin size) : assigned items size rank ≠ [] := by
  have inside : Util.start items.length size (rank + 1) ≤ items.length := by
    calc Util.start items.length size (rank + 1) ≤
          Util.start items.length size size := Util.start_monotone rank.isLt
      _ = items.length := Util.start_workers some
  have filled := Util.start_lt_succ some enough rank
  have length := length_block inside
  rw [← assigned_eq_block] at length
  intro empty
  rw [empty, List.length_nil] at length
  omega

end Assigned

end Concurrente.NBody
