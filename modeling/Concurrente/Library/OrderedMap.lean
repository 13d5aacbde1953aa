import Mathlib

/-!
# Ordered maps with a comparison

An ordered associative array is given a comparison of keys instead of an
equality.  Two keys are the same to it when neither comes before the other.
When the comparison folds every key into a linear order and compares there,
this is equality of what the keys are folded to, and a later assignment to the
same key replaces the value of an earlier one.
-/

namespace Concurrente.Library

/-- A comparison of keys that is the order of what they are folded to. -/
structure Comparison (κ : Type*) (ω : Type*) [LinearOrder ω] where
  less : κ → κ → Bool
  fold : κ → ω
  less_iff : ∀ a b, less a b = true ↔ fold a < fold b

/-- The entries of an associative array, in the order of their keys. -/
structure OrderedMap {κ ω : Type*} [LinearOrder ω] (order : Comparison κ ω)
    (β : Type*) where
  entries : List (κ × β)
  sorted : entries.Pairwise fun a b => order.less a.1 b.1 = true

namespace Comparison

variable {κ ω β : Type*} [LinearOrder ω] (order : Comparison κ ω)

/-- The value behind a key among entries in order. -/
def find (key : κ) : List (κ × β) → Option β
  | [] => none
  | entry :: entries =>
      if order.less entry.1 key then find key entries
      else if order.less key entry.1 then none
      else some entry.2

/-- Entries in order after an assignment.  A key that is there already stays
as it is and gets the new value. -/
def assign (key : κ) (value : β) : List (κ × β) → List (κ × β)
  | [] => [(key, value)]
  | entry :: entries =>
      if order.less entry.1 key then entry :: assign key value entries
      else if order.less key entry.1 then (key, value) :: entry :: entries
      else (entry.1, value) :: entries

/-- The value of the last pair whose key is the same as the given one. -/
def lastValue (key : κ) (pairs : List (κ × β)) : Option β :=
  (pairs.filter fun pair => order.fold pair.1 = order.fold key).getLast?.map
    Prod.snd

variable {order}

theorem not_less_iff {a b : κ} :
    ¬ order.less a b = true ↔ order.fold b ≤ order.fold a := by
  rw [order.less_iff, not_lt]

/-- Keys none of which comes before the other are the same. -/
theorem fold_eq {a b : κ} (forward : ¬ order.less a b = true)
    (backward : ¬ order.less b a = true) : order.fold a = order.fold b :=
  le_antisymm (not_less_iff.mp backward) (not_less_iff.mp forward)

theorem find_cons (key : κ) (entry : κ × β) (entries : List (κ × β)) :
    order.find key (entry :: entries) =
      if order.fold entry.1 < order.fold key then order.find key entries
      else if order.fold key < order.fold entry.1 then none
      else some entry.2 := by
  rw [find]
  simp only [order.less_iff]

theorem assign_cons (key : κ) (value : β) (entry : κ × β)
    (entries : List (κ × β)) :
    order.assign key value (entry :: entries) =
      if order.fold entry.1 < order.fold key then
        entry :: order.assign key value entries
      else if order.fold key < order.fold entry.1 then
        (key, value) :: entry :: entries
      else (entry.1, value) :: entries := by
  rw [assign]
  simp only [order.less_iff]

/-- An assignment changes the value of its key, and of no other. -/
theorem find_assign (key other : κ) (value : β) (entries : List (κ × β)) :
    order.find other (order.assign key value entries) =
      if order.fold key = order.fold other then some value
      else order.find other entries := by
  induction entries with
  | nil =>
      rw [assign, find_cons]
      rcases lt_trichotomy (order.fold key) (order.fold other) with
        before | same | behind
      · simp [before, before.ne]
      · simp [same]
      · simp [behind.not_gt, behind, behind.ne', find]
  | cons entry entries ih =>
      rw [assign_cons]
      rcases lt_trichotomy (order.fold entry.1) (order.fold key) with
        later | equal | earlier
      · rw [if_pos later, find_cons, find_cons, ih]
        by_cases same : order.fold key = order.fold other
        · simp [← same, later]
        · simp [same]
      · rw [equal, if_neg (lt_irrefl _), if_neg (lt_irrefl _), find_cons,
          find_cons, equal]
        rcases lt_trichotomy (order.fold key) (order.fold other) with
          before | same | behind
        · simp [before, before.ne]
        · simp [same]
        · simp [behind.not_gt, behind, behind.ne']
      · rw [if_neg earlier.not_gt, if_pos earlier, find_cons]
        rcases lt_trichotomy (order.fold key) (order.fold other) with
          before | same | behind
        · simp [before, before.ne]
        · simp [same]
        · -- the other key would come in front of both
          have front := behind.trans earlier
          rw [find_cons]
          simp [behind.not_gt, behind, behind.ne', front.not_gt, front]

theorem mem_assign {key : κ} {value : β} {entries : List (κ × β)} {entry : κ × β}
    (member : entry ∈ order.assign key value entries) :
    order.fold entry.1 = order.fold key ∨ entry ∈ entries := by
  induction entries with
  | nil =>
      rw [assign, List.mem_singleton] at member
      exact .inl (by rw [member])
  | cons first entries ih =>
      rw [assign] at member
      split at member
      · rcases List.mem_cons.mp member with same | later
        · exact .inr (by simp [same])
        · exact (ih later).imp_right (.tail _)
      next later =>
        split at member
        · rcases List.mem_cons.mp member with same | old
          · exact .inl (by rw [same])
          · exact .inr old
        next earlier =>
          rcases List.mem_cons.mp member with same | old
          · exact .inl (by rw [same]; exact fold_eq later earlier)
          · exact .inr (.tail _ old)

/-- An assignment keeps the order of the entries. -/
theorem sorted_assign (key : κ) (value : β) {entries : List (κ × β)}
    (sorted : entries.Pairwise fun a b => order.less a.1 b.1 = true) :
    (order.assign key value entries).Pairwise
      fun a b => order.less a.1 b.1 = true := by
  induction entries with
  | nil => exact List.pairwise_singleton _ _
  | cons first entries ih =>
      obtain ⟨front, rest⟩ := List.pairwise_cons.mp sorted
      rw [assign]
      split
      next before =>
        apply List.pairwise_cons.mpr
        constructor
        · intro entry member
          rcases mem_assign member with same | old
          · rw [order.less_iff, same, ← order.less_iff]
            exact before
          · exact front entry old
        · exact ih rest
      split
      next earlier =>
        apply List.pairwise_cons.mpr
        constructor
        · intro entry member
          rcases List.mem_cons.mp member with rfl | later
          · exact earlier
          · have next := front entry later
            rw [order.less_iff] at *
            exact lt_trans earlier next
        · exact sorted
      · exact List.pairwise_cons.mpr ⟨front, rest⟩

/-- Among entries in order, a key is found at the only place where it is. -/
theorem find_eq_lastValue {entries : List (κ × β)}
    (sorted : entries.Pairwise fun a b => order.less a.1 b.1 = true) (key : κ) :
    order.find key entries = order.lastValue key entries := by
  induction entries with
  | nil => rfl
  | cons first entries ih =>
      obtain ⟨front, rest⟩ := List.pairwise_cons.mp sorted
      have absent : order.fold key ≤ order.fold first.1 →
          entries.filter (fun pair => order.fold pair.1 = order.fold key) = [] := by
        intro bound
        apply List.filter_eq_nil_iff.mpr
        intro entry member
        have behind := (order.less_iff _ _).mp (front entry member)
        simpa using (lt_of_le_of_lt bound behind).ne'
      rw [find]
      split
      next before =>
        have different : order.fold first.1 ≠ order.fold key :=
          ((order.less_iff _ _).mp before).ne
        rw [ih rest]
        simp [lastValue, different]
      next before =>
        have none := absent (not_less_iff.mp before)
        split
        next behind =>
          have different : order.fold first.1 ≠ order.fold key :=
            ((order.less_iff _ _).mp behind).ne'
          simp [lastValue, different, none]
        next behind =>
          have same := fold_eq before behind
          simp [lastValue, same, none]

theorem lastValue_append (key : κ) (first second : List (κ × β)) :
    order.lastValue key (first ++ second) =
      (order.lastValue key second).or (order.lastValue key first) := by
  unfold lastValue
  rw [List.filter_append, List.getLast?_append, Option.map_or]

theorem lastValue_singleton (key other : κ) (value : β) :
    order.lastValue key [(other, value)] =
      if order.fold other = order.fold key then some value else none := by
  by_cases same : order.fold other = order.fold key <;> simp [lastValue, same]

end Comparison

namespace OrderedMap

variable {κ ω β : Type*} [LinearOrder ω] {order : Comparison κ ω}

def empty (order : Comparison κ ω) : OrderedMap order β where
  entries := []
  sorted := List.Pairwise.nil

def find (map : OrderedMap order β) (key : κ) : Option β :=
  order.find key map.entries

def assign (map : OrderedMap order β) (key : κ) (value : β) :
    OrderedMap order β where
  entries := order.assign key value map.entries
  sorted := Comparison.sorted_assign key value map.sorted

/-- Assignments one after another. -/
def assignAll (map : OrderedMap order β) (pairs : List (κ × β)) :
    OrderedMap order β :=
  pairs.foldl (fun map pair => map.assign pair.1 pair.2) map

@[simp] theorem find_empty (key : κ) :
    (empty order : OrderedMap order β).find key = none := rfl

theorem find_assign (map : OrderedMap order β) (key other : κ) (value : β) :
    (map.assign key value).find other =
      if order.fold key = order.fold other then some value
      else map.find other :=
  Comparison.find_assign key other value map.entries

theorem find_eq_lastValue (map : OrderedMap order β) (key : κ) :
    map.find key = order.lastValue key map.entries :=
  Comparison.find_eq_lastValue map.sorted key

/-- What is found depends only on what the key is folded to. -/
theorem find_congr (map : OrderedMap order β) {key other : κ}
    (same : order.fold key = order.fold other) : map.find key = map.find other := by
  rw [find_eq_lastValue, find_eq_lastValue, Comparison.lastValue,
    Comparison.lastValue, same]

@[simp] theorem assignAll_nil (map : OrderedMap order β) :
    map.assignAll [] = map := rfl

theorem assignAll_cons (map : OrderedMap order β) (pair : κ × β)
    (pairs : List (κ × β)) :
    map.assignAll (pair :: pairs) =
      (map.assign pair.1 pair.2).assignAll pairs := rfl

/-- Of several assignments to a key the last one counts. -/
theorem find_assignAll (map : OrderedMap order β) (pairs : List (κ × β))
    (key : κ) :
    (map.assignAll pairs).find key =
      (order.lastValue key pairs).or (map.find key) := by
  induction pairs generalizing map with
  | nil => rfl
  | cons pair pairs ih =>
      have split : order.lastValue key (pair :: pairs) =
          (order.lastValue key pairs).or (order.lastValue key [pair]) :=
        Comparison.lastValue_append key [pair] pairs
      rw [assignAll_cons, ih, find_assign, split, Option.or_assoc,
        Comparison.lastValue_singleton]
      by_cases same : order.fold pair.1 = order.fold key <;> simp [same]

end OrderedMap

end Concurrente.Library
