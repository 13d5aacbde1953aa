import Concurrente.Common.Util

/-!
# What splitting loses

`Util::tokenize` goes on one character behind the start of a delimiter it has
found, whatever the length of the delimiter.  The lengths of the tokens show
how much of the text that leaves to be seen twice.
-/

namespace Concurrente

/-- What a caller of `Util::split` expects of its tokens. -/
structure LosesNothing (text delim : Text) : Prop where
  separated : ∀ token ∈ split text delim false, ¬ delim <:+: token
  joined : delim.intercalate (split text delim false) = text
  trimmed : split text delim true =
    (split text delim false).filter (fun token => !token.isEmpty)

/-! ## Where the delimiter is found -/

theorem isInfix_of_find {sub text : Text} {pos : Nat}
    (found : find sub text = some pos) : sub <:+: text := by
  induction text generalizing pos with
  | nil =>
      simp only [find] at found
      split at found
      next empty => simp [List.isEmpty_iff.mp empty]
      next => simp at found
  | cons c text ih =>
      simp only [find] at found
      split at found
      next starts => exact (List.isPrefixOf_iff_prefix.mp starts).isInfix
      next =>
        obtain ⟨later, laterFound, _⟩ := Option.map_eq_some_iff.mp found
        exact (ih laterFound).trans (List.suffix_cons c text).isInfix

theorem find_of_not_isInfix {sub text : Text} (absent : ¬ sub <:+: text) :
    find sub text = none := by
  cases found : find sub text with
  | none => rfl
  | some pos => exact absurd (isInfix_of_find found) absent

theorem split_of_not_isInfix {text delim : Text} (absent : ¬ delim <:+: text) :
    split text delim false = [text] := by
  have last : tokenEnd text delim 0 = text.length := by
    simp [tokenEnd, findFrom, find_of_not_isInfix absent]
  have finished : tokenizeFrom text delim false (text.length + 1) = [] := by
    rw [tokenizeFrom, dif_neg (by omega)]
  rw [split, tokenizeFrom, dif_pos (by omega)]
  simp [last, finished]

/-! ## The lengths of the tokens -/

/-- Every token costs its own length and one character more. -/
theorem tokenizeFrom_length (text delim : Text) (lastPos : Nat)
    (inside : lastPos ≤ text.length + 1) :
    ((tokenizeFrom text delim false lastPos).map (·.length + 1)).sum =
      text.length + 1 - lastPos := by
  rw [tokenizeFrom]
  split
  next more =>
    have := tokenEnd_bounds delim (by omega : lastPos ≤ text.length)
    have ih := tokenizeFrom_length text delim (tokenEnd text delim lastPos + 1)
      (by omega)
    simp [ih]
    omega
  next => simp; omega
termination_by text.length + 1 - lastPos
decreasing_by
  have := tokenEnd_bounds delim (by omega : lastPos ≤ text.length)
  omega

theorem intercalate_length {delim : Text} :
    ∀ {tokens : List Text}, tokens ≠ [] →
      (delim.intercalate tokens).length + delim.length =
        (tokens.map (·.length + delim.length)).sum
  | [], nonempty => absurd rfl nonempty
  | [token], _ => by simp
  | token :: next :: tokens, _ => by
      have ih := @intercalate_length delim (next :: tokens) (by simp)
      rw [List.intercalate_cons_cons]
      simp only [List.length_append, List.map_cons, List.sum_cons] at ih ⊢
      omega

theorem split_ne_nil (text delim : Text) : split text delim false ≠ [] := by
  rw [split, tokenizeFrom, dif_pos (by omega)]
  simp

/-- Every token behind the first one puts back more of the delimiter than the
search went past. -/
theorem joined_length (text delim : Text) (nonempty : delim ≠ []) :
    (delim.intercalate (split text delim false)).length =
      text.length +
        ((split text delim false).length - 1) * (delim.length - 1) := by
  have lengths := tokenizeFrom_length text delim 0 (by omega)
  have whole := @intercalate_length delim _ (split_ne_nil text delim)
  have some := List.length_pos_of_ne_nil (split_ne_nil text delim)
  have width := List.length_pos_of_ne_nil nonempty
  rw [← split] at lengths
  generalize split text delim false = tokens at lengths whole some ⊢
  rw [List.sum_map_add] at lengths whole
  simp only [List.map_const', List.sum_replicate, smul_eq_mul, mul_one] at lengths whole
  obtain ⟨count, counted⟩ := Nat.exists_eq_add_of_lt some
  obtain ⟨later, wide⟩ := Nat.exists_eq_add_of_lt width
  simp only [Nat.zero_add] at counted wide
  rw [counted] at lengths whole ⊢
  rw [wide] at whole ⊢
  have product : (count + 1) * (later + 1) = count * later + count + later + 1 := by
    ring
  simp only [Nat.add_sub_cancel]
  omega

/-! ## When splitting loses nothing -/

theorem not_mem_of_mem_splitOn {c : Char} {text token : Text}
    (member : token ∈ text.splitOn c) : c ∉ token := by
  induction text generalizing token with
  | nil => simp [List.mem_singleton.mp member]
  | cons head text ih =>
      rw [List.splitOn_cons_eq_if_modifyHead] at member
      split at member
      next same =>
        rcases List.mem_cons.mp member with rfl | later
        · simp
        · exact ih later
      next other =>
        obtain ⟨first, tokens, shape⟩ :=
          List.exists_cons_of_ne_nil (List.splitOn_ne_nil c text)
        rw [shape] at member ih
        rcases List.mem_cons.mp member with rfl | later
        · have absent : c ∉ first := ih (by simp)
          have different : c ≠ head := by
            intro same
            exact other (by simp [same])
          simp [absent, different]
        · exact ih (by simp [later])

theorem losesNothing_char (text : Text) (c : Char) : LosesNothing text [c] := by
  constructor
  · intro token member occurs
    rw [split_char] at member
    exact not_mem_of_mem_splitOn member (occurs.subset (by simp))
  · rw [split_char]
    exact List.intercalate_splitOn c
  · exact split_trim text [c]

theorem losesNothing_of_not_isInfix {text delim : Text}
    (absent : ¬ delim <:+: text) : LosesNothing text delim := by
  constructor
  · rw [split_of_not_isInfix absent]
    simpa using absent
  · rw [split_of_not_isInfix absent]
    simp
  · exact split_trim text delim

/-- With a delimiter of several characters, a text that is put back together
was never split. -/
theorem split_eq_singleton_of_joined {text delim : Text} (long : 1 < delim.length)
    (joined : delim.intercalate (split text delim false) = text) :
    split text delim false = [text] := by
  have nonempty : delim ≠ [] := List.ne_nil_of_length_pos (by omega)
  have lengths := joined_length text delim nonempty
  rw [joined] at lengths
  have product := Nat.mul_eq_zero.mp (by omega :
    ((split text delim false).length - 1) * (delim.length - 1) = 0)
  have some := List.length_pos_of_ne_nil (split_ne_nil text delim)
  obtain ⟨token, shape⟩ := List.length_eq_one_iff.mp
    (by omega : (split text delim false).length = 1)
  rw [shape, List.intercalate_singleton] at joined
  rw [shape, joined]

/-- Splitting loses nothing exactly for a delimiter of one character, and for
one that does not occur. -/
theorem losesNothing_iff {text delim : Text} (nonempty : delim ≠ []) :
    LosesNothing text delim ↔ delim.length = 1 ∨ ¬ delim <:+: text := by
  constructor
  · intro faithful
    have width := List.length_pos_of_ne_nil nonempty
    by_cases single : delim.length = 1
    · exact .inl single
    · have alone := split_eq_singleton_of_joined (by omega) faithful.joined
      exact .inr (faithful.separated text (by simp [alone]))
  · rintro (single | absent)
    · obtain ⟨c, rfl⟩ := List.length_eq_one_iff.mp single
      exact losesNothing_char text c
    · exact losesNothing_of_not_isInfix absent

theorem losesNothing_commas :
    split "a,,b".toList ",".toList false = ["a".toList, [], "b".toList] ∧
      LosesNothing "a,,b".toList ",".toList := by
  constructor
  · simp [split, tokenizeFrom, tokenEnd, findFrom, find]
  · exact (losesNothing_iff (by decide)).mpr (.inl rfl)

theorem not_losesNothing_dashes :
    split "a--b".toList "--".toList false = ["a".toList, "-b".toList] ∧
      ¬ LosesNothing "a--b".toList "--".toList := by
  have tokens : split "a--b".toList "--".toList false = ["a".toList, "-b".toList] := by
    simp [split, tokenizeFrom, tokenEnd, findFrom, find]
  refine ⟨tokens, ?_⟩
  intro faithful
  have joined := faithful.joined
  rw [tokens] at joined
  exact absurd joined (by decide)

end Concurrente
