import Concurrente.NBody.Simulation.CollisionGeometry

/-!
# The local loops

`checkCollisions` visits the ordered pairs of local bodies row by row.  A pair
that overlaps is resolved when the row of its lower index reaches the higher
one, and left alone from then on.
-/

namespace Concurrente.NBody

namespace Universe

variable {α : Type} [RealArithmetic α]

theorem ofFn_set {β : Type} {n : Nat} (f : Fin n → β) (index : Fin n)
    (value : β) :
    (List.ofFn f).set index value = List.ofFn (Function.update f index value) := by
  apply List.ext_getElem
  · simp
  intro position _ inside
  have bound : position < n := by simpa using inside
  by_cases same : index.val = position
  · subst same
    simp
  · have different : (⟨position, bound⟩ : Fin n) ≠ index := fun equality =>
      same (congrArg Fin.val equality).symm
    simp [same, Function.update_of_ne different]

/-- One step of the inner loop. -/
theorem bodies_checkPair {n : Nat} {self : Universe α} {f : Fin n → Body α}
    (bodies : self.bodies = List.ofFn f) (index other : Fin n) :
    (checkPair index self other).bodies =
      if index ≠ other ∧ (f other).isActive ∧
          (f index).checkCollision (f other).radius (f other).position then
        List.ofFn (Function.update
          (Function.update f index (Simulation.resolvePair (f index) (f other)).1)
          other (Simulation.resolvePair (f index) (f other)).2)
      else List.ofFn f := by
  have own : self.bodies[index.val]? = some (f index) := by
    simp [bodies]
  have theirs : self.bodies[other.val]? = some (f other) := by
    simp [bodies]
  simp only [checkPair, own, theirs]
  by_cases same : index = other
  · simp [same, bodies]
  have different : index.val ≠ other.val := fun equality =>
    same (Fin.ext equality)
  by_cases active : (f other).isActive = true
  · by_cases collides : (f index).checkCollision (f other).radius
        (f other).position = true
    · have masses : ¬ (f other).mass ≤ (f index).mass →
          (f index).mass ≤ (f other).mass := fun lighter =>
        (lt_of_not_ge lighter).le
      by_cases heavier : (f other).mass ≤ (f index).mass
      · simp [same, different, active, collides, bodies, Body.absorbBody,
          Body.absorb_eq, heavier, ofFn_set, Simulation.resolvePair]
      · simp [same, different, active, collides, bodies, Body.absorbBody,
          Body.absorb_eq, heavier, masses heavier, ofFn_set,
          Simulation.resolvePair]
    · simp [same, active, collides, bodies]
  · simp [active, bodies]

end Universe

namespace Simulation

variable {α : Type} [RealArithmetic α] {size : Nat}
  {universes : Fin size → Universe α}

/-- The local pairs that are done when the inner loop of `index` is at
`other`. -/
def localDone (index other : Nat) (x y : Place universes) : Prop :=
  x.1 = y.1 ∧ (min x.2.val y.2.val < index ∨
    (min x.2.val y.2.val = index ∧ max x.2.val y.2.val < other))

theorem outcome_local {rank : Fin size}
    {i j : Fin (universes rank).bodies.length} (before : i < j) :
    (outcome universes ⟨rank, i⟩ ⟨rank, j⟩, outcome universes ⟨rank, j⟩ ⟨rank, i⟩) =
      resolvePair (bodyAt universes ⟨rank, i⟩) (bodyAt universes ⟨rank, j⟩) := by
  have after : ¬ j.val < i.val := by omega
  have before' : i.val < j.val := before
  simp [outcome, before', after]

/-- A resolved pair has one active body. -/
theorem not_both_active {first second : Body α} (positive : 0 < first.mass)
    (positive' : 0 < second.mass) :
    ¬ ((resolvePair first second).1.isActive = true ∧
      (resolvePair first second).2.isActive = true) := by
  unfold resolvePair
  split
  · simp only [Body.isActive_iff, Body.mass_deactivate, Left.neg_pos_iff]
    exact fun both => absurd both.2 positive'.not_gt
  · simp only [Body.isActive_iff, Body.mass_deactivate, Left.neg_pos_iff]
    exact fun both => absurd both.1 positive.not_gt

omit [RealArithmetic α] in
theorem localDone_succ {index other : Nat} {x y : Place universes} :
    localDone index (other + 1) x y ↔
      localDone index other x y ∨
        (x.1 = y.1 ∧ min x.2.val y.2.val = index ∧ max x.2.val y.2.val = other) := by
  unfold localDone
  constructor
  · rintro ⟨rank, earlier | ⟨row, reached⟩⟩
    · exact .inl ⟨rank, .inl earlier⟩
    · rcases Nat.lt_succ_iff_lt_or_eq.mp reached with before | now
      · exact .inl ⟨rank, .inr ⟨row, before⟩⟩
      · exact .inr ⟨rank, row, now⟩
  · rintro (⟨rank, earlier | ⟨row, reached⟩⟩ | ⟨rank, row, now⟩)
    · exact ⟨rank, .inl earlier⟩
    · exact ⟨rank, .inr ⟨row, by omega⟩⟩
    · exact ⟨rank, .inr ⟨row, by omega⟩⟩

section Row

variable (separated : Separated universes) {rank : Fin size}
  {index other : Fin (universes rank).bodies.length}

include separated

/-- A pair that the loops have not reached is as it was. -/
theorem settled_of_pending (before : index < other)
    (overlap : Overlap universes ⟨rank, index⟩ ⟨rank, other⟩) :
    settled universes (localDone index.val other.val) ⟨rank, index⟩ =
        bodyAt universes ⟨rank, index⟩ ∧
      settled universes (localDone index.val other.val) ⟨rank, other⟩ =
        bodyAt universes ⟨rank, other⟩ := by
  have lower : index.val < other.val := before
  constructor
  · apply settled_of_not_done
    intro y again
    obtain rfl := separated.partner_unique overlap again
    simp only [localDone]
    omega
  · apply settled_of_not_done
    intro y again
    obtain rfl := separated.partner_unique overlap.symm again
    simp only [localDone]
    omega

/-- One step of the inner loop resolves the pair it is at, if it overlaps and
was not resolved in an earlier row. -/
theorem settled_step
    (rowActive : ∀ earlier, earlier < index →
      Overlap universes ⟨rank, index⟩ ⟨rank, earlier⟩ →
      (outcome universes ⟨rank, index⟩ ⟨rank, earlier⟩).isActive = true)
    {self : Universe α}
    (bodies : self.bodies = List.ofFn fun i : Fin (universes rank).bodies.length =>
      settled universes (localDone index.val other.val) ⟨rank, i⟩) :
    (Universe.checkPair index.val self other.val).bodies =
      List.ofFn fun i : Fin (universes rank).bodies.length =>
        settled universes (localDone index.val (other.val + 1)) ⟨rank, i⟩ := by
  rw [Universe.bodies_checkPair bodies index other]
  split
  next collision =>
    obtain ⟨different, active, collides⟩ := collision
    have places : (⟨rank, index⟩ : Place universes) ≠ ⟨rank, other⟩ := by
      simpa using different
    have overlap := separated.overlap_of_checkCollision places
      (variant_settled _ _) (variant_settled _ _) collides
    rcases lt_or_gt_of_ne different with before | after
    · have lower : index.val < other.val := before
      obtain ⟨own, theirs⟩ := settled_of_pending separated before overlap
      have results := Prod.ext_iff.mp (outcome_local before)
      congr 1
      funext i
      by_cases last : i = other
      · subst last
        rw [Function.update_self, own, theirs, ← results.2,
          settled_of_done separated overlap.symm]
        exact localDone_succ.mpr (.inr ⟨rfl, by simp; omega, by simp; omega⟩)
      by_cases first : i = index
      · subst first
        rw [Function.update_of_ne last, Function.update_self, own, theirs,
          ← results.1, settled_of_done separated overlap]
        exact localDone_succ.mpr (.inr ⟨rfl, by simp; omega, by simp; omega⟩)
      · rw [Function.update_of_ne last, Function.update_of_ne first]
        apply settled_congr separated
        intro y _
        rw [localDone_succ, iff_self_or]
        rintro ⟨rankEq, row, column⟩
        have apart : i.val ≠ index.val := fun equality => first (Fin.ext equality)
        have apart' : i.val ≠ other.val := fun equality => last (Fin.ext equality)
        simp only at row column
        omega
    · -- resolved in an earlier row, so one of the two is inactive
      have lower : other.val < index.val := after
      have finished : localDone index.val other.val
          (⟨rank, index⟩ : Place universes) ⟨rank, other⟩ :=
        ⟨rfl, .inl (by simp; omega)⟩
      have finished' : localDone index.val other.val
          (⟨rank, other⟩ : Place universes) ⟨rank, index⟩ :=
        ⟨rfl, .inl (by simp; omega)⟩
      rw [settled_of_done separated overlap.symm finished'] at active
      have results := Prod.ext_iff.mp (outcome_local after)
      have both := not_both_active (separated.positive ⟨rank, other⟩)
        (separated.positive ⟨rank, index⟩)
      rw [← results.1, ← results.2] at both
      exact (both ⟨active, rowActive other after overlap⟩).elim
  next idle =>
    congr 1
    funext i
    apply settled_congr separated
    intro y overlap
    rw [localDone_succ, iff_self_or]
    rintro ⟨rankEq, row, column⟩
    exfalso
    obtain ⟨rank', j⟩ := y
    obtain rfl : rank = rank' := rankEq
    have different : i.val ≠ j.val := fun equality =>
      overlap.1 (by rw [Fin.ext equality])
    simp only at row column
    have before : index < other := by
      show index.val < other.val
      omega
    have pair : Overlap universes ⟨rank, index⟩ ⟨rank, other⟩ := by
      rcases Nat.lt_or_gt_of_ne different with less | more
      · obtain rfl : index = i := Fin.ext (by omega)
        obtain rfl : other = j := Fin.ext (by omega)
        exact overlap
      · obtain rfl : index = j := Fin.ext (by omega)
        obtain rfl : other = i := Fin.ext (by omega)
        exact overlap.symm
    obtain ⟨own, theirs⟩ := settled_of_pending separated before pair
    rw [own, theirs] at idle
    exact idle ⟨before.ne, (Body.isActive_iff _).mpr (separated.positive _), pair.2⟩

/-- The inner loop of a row whose body is active. -/
theorem settled_row
    (rowActive : ∀ earlier, earlier < index →
      Overlap universes ⟨rank, index⟩ ⟨rank, earlier⟩ →
      (outcome universes ⟨rank, index⟩ ⟨rank, earlier⟩).isActive = true)
    {self : Universe α}
    (bodies : self.bodies = List.ofFn fun i : Fin (universes rank).bodies.length =>
      settled universes (localDone index.val 0) ⟨rank, i⟩)
    {count : Nat} (bound : count ≤ (universes rank).bodies.length) :
    ((List.range count).foldl (Universe.checkPair index.val) self).bodies =
      List.ofFn fun i : Fin (universes rank).bodies.length =>
        settled universes (localDone index.val count) ⟨rank, i⟩ := by
  induction count with
  | zero => exact bodies
  | succ count ih =>
      rw [List.range_succ, List.foldl_append]
      exact @settled_step _ _ _ _ separated rank index ⟨count, bound⟩ rowActive _
        (ih (by omega))

/-- A whole row. -/
theorem settled_checkBody {self : Universe α}
    (bodies : self.bodies = List.ofFn fun i : Fin (universes rank).bodies.length =>
      settled universes (localDone index.val 0) ⟨rank, i⟩) :
    (Universe.checkBody self index.val).bodies =
      List.ofFn fun i : Fin (universes rank).bodies.length =>
        settled universes (localDone (index.val + 1) 0) ⟨rank, i⟩ := by
  have own : self.bodies[index.val]? =
      some (settled universes (localDone index.val 0) ⟨rank, index⟩) := by
    simp [bodies]
  have size : self.bodies.length = (universes rank).bodies.length := by
    simp [bodies]
  unfold Universe.checkBody
  rw [own, size]
  split
  next active =>
    rw [settled_row separated ?_ bodies le_rfl]
    · congr 1
      funext i
      apply settled_congr separated
      rintro ⟨rank', j⟩ _
      simp only [localDone]
      constructor
      · rintro ⟨rankEq, earlier | ⟨row, _⟩⟩
        · exact ⟨rankEq, .inl (by omega)⟩
        · exact ⟨rankEq, .inl (by omega)⟩
      · rintro ⟨rankEq, earlier | ⟨_, never⟩⟩
        · obtain rfl : rank = rank' := rankEq
          have inside := i.isLt
          have inside' := j.isLt
          exact ⟨rfl, by omega⟩
        · omega
    · intro earlier before overlap
      have finished : localDone index.val 0 (⟨rank, index⟩ : Place universes)
          ⟨rank, earlier⟩ := ⟨rfl, .inl (by
            have lower : earlier.val < index.val := before
            simp; omega)⟩
      rw [settled_of_done separated overlap finished] at active
      simpa using active
  next inactive =>
    rw [bodies]
    congr 1
    funext i
    apply settled_congr separated
    rintro ⟨rank', j⟩ overlap
    -- a pair of this row would find its lower body untouched, and active
    have noPair : ∀ higher, index < higher →
        ¬ Overlap universes ⟨rank, index⟩ ⟨rank, higher⟩ := by
      intro higher after pair
      have untouched : settled universes (localDone index.val 0) ⟨rank, index⟩ =
          bodyAt universes ⟨rank, index⟩ := by
        apply settled_of_not_done
        intro y again
        obtain rfl := separated.partner_unique pair again
        have lower : index.val < higher.val := after
        simp only [localDone]
        omega
      rw [untouched] at inactive
      exact inactive (by simpa using
        (Body.isActive_iff _).mpr (separated.positive ⟨rank, index⟩))
    simp only [localDone]
    constructor
    · rintro ⟨rankEq, earlier | ⟨_, never⟩⟩
      · exact ⟨rankEq, .inl (by omega)⟩
      · omega
    · rintro ⟨rankEq, earlier | ⟨_, never⟩⟩
      · obtain rfl : rank = rank' := rankEq
        refine ⟨rfl, .inl ?_⟩
        by_contra row
        have different : i.val ≠ j.val := fun equality =>
          overlap.1 (by rw [Fin.ext equality])
        rcases Nat.lt_or_gt_of_ne different with less | more
        · obtain rfl : index = i := Fin.ext (by omega)
          exact noPair j less overlap
        · obtain rfl : index = j := Fin.ext (by omega)
          exact noPair i more overlap.symm
      · omega

end Row

/-- After the local loops the local pairs are resolved. -/
theorem bodies_checkCollisions (separated : Separated universes)
    (rank : Fin size) :
    (universes rank).checkCollisions.bodies =
      List.ofFn fun i : Fin (universes rank).bodies.length =>
        settled universes (fun x y => x.1 = y.1) ⟨rank, i⟩ := by
  have rows : ∀ count, count ≤ (universes rank).bodies.length →
      ((List.range count).foldl Universe.checkBody (universes rank)).bodies =
        List.ofFn fun i : Fin (universes rank).bodies.length =>
          settled universes (localDone count 0) ⟨rank, i⟩ := by
    intro count bound
    induction count with
    | zero =>
        apply List.ext_getElem
        · simp
        intro i _ inside
        rw [List.getElem_ofFn, settled_of_not_done]
        · rfl
        · intro y _
          simp [localDone]
    | succ count ih =>
        rw [List.range_succ, List.foldl_append]
        exact @settled_checkBody _ _ _ _ separated rank ⟨count, bound⟩ _
          (ih (by omega))
  rw [Universe.checkCollisions, rows _ le_rfl]
  congr 1
  funext i
  apply settled_congr separated
  rintro ⟨rank', j⟩ _
  simp only [localDone]
  constructor
  · exact And.left
  · intro rankEq
    have inside := i.isLt
    exact ⟨rankEq, .inl (by omega)⟩

end Simulation

end Concurrente.NBody
