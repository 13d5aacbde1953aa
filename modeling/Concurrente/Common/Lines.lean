import Concurrente.Common.Conversions

/-!
# Lines of a text

What successive calls of `std::getline` deliver from a text: the pieces that
end with the separator and, unless it is empty, what follows the last one.
-/

namespace Concurrente

/-- The lines of a text.  What follows the last separator is a line unless it
is empty. -/
def streamLines (separator : Char) (text : Text) : List Text :=
  let pieces := text.splitOn separator
  if pieces.getLast? = some [] then pieces.dropLast else pieces

@[simp] theorem streamLines_nil (separator : Char) :
    streamLines separator [] = [] := by
  simp [streamLines]

theorem streamLines_cons {separator : Char} {line : Text}
    (whole : separator ∉ line) (rest : Text) :
    streamLines separator (line ++ separator :: rest) =
      line :: streamLines separator rest := by
  have nonempty := List.splitOn_ne_nil separator rest
  unfold streamLines
  rw [List.splitOn_append_cons_self_of_not_mem whole]
  obtain ⟨last, found⟩ := List.getLast?_isSome.mpr nonempty |> Option.isSome_iff_exists.mp
  simp only [List.getLast?_cons, found, Option.getD_some,
    List.dropLast_cons_of_ne_nil nonempty]
  split <;> simp_all

theorem streamLines_unterminated {separator : Char} {line : Text}
    (whole : separator ∉ line) (nonempty : line ≠ []) :
    streamLines separator line = [line] := by
  simp [streamLines, List.splitOn_eq_singleton whole, nonempty]

/-- A text is empty, its last line, or a terminated line and the rest. -/
theorem line_cases (separator : Char) (text : Text) :
    separator ∉ text ∨
      ∃ line rest, separator ∉ line ∧ text = line ++ separator :: rest := by
  by_cases member : separator ∈ text
  · obtain ⟨line, rest, rfl, whole⟩ := List.eq_append_cons_of_mem member
    exact .inr ⟨line, rest, whole, rfl⟩
  · exact .inl member

theorem bne_of_notMem {separator : Char} {text : Text}
    (absent : separator ∉ text) : ∀ c ∈ text, (c != separator) = true := by
  intro c member
  have different : c ≠ separator := by
    rintro rfl
    exact absent member
  simpa using different

theorem takeWhile_line {separator : Char} {line : Text}
    (whole : separator ∉ line) (rest : Text) :
    (line ++ separator :: rest).takeWhile (· != separator) = line := by
  rw [List.takeWhile_append_of_pos (bne_of_notMem whole),
    List.takeWhile_cons_of_neg (by simp), List.append_nil]

theorem dropWhile_line {separator : Char} {line : Text}
    (whole : separator ∉ line) (rest : Text) :
    (line ++ separator :: rest).dropWhile (· != separator) =
      separator :: rest := by
  rw [List.dropWhile_append_of_pos (bne_of_notMem whole),
    List.dropWhile_cons_of_neg (by simp)]

/-- Texts that end with the separator can be read one by one. -/
theorem streamLines_append {separator : Char} {text : Text}
    (terminated : text.getLast? = some separator) (rest : Text) :
    streamLines separator (text ++ rest) =
      streamLines separator text ++ streamLines separator rest := by
  rcases line_cases separator text with absent | ⟨line, later, whole, rfl⟩
  · exact (absent (List.mem_of_getLast? terminated)).elim
  · rw [List.append_assoc, List.cons_append, streamLines_cons whole,
      streamLines_cons whole]
    cases later with
    | nil => simp
    | cons next later =>
        have shorter : (next :: later).getLast? = some separator := by
          simpa [List.getLast?_append, List.getLast?_cons] using terminated
        rw [streamLines_append shorter rest]
        rfl
termination_by text.length

/-- Cells with separators between them, when the last one is not empty. -/
theorem streamLines_intercalate {separator : Char} {cells : List Text}
    (whole : ∀ cell ∈ cells, separator ∉ cell) (some : cells ≠ [])
    (last : cells.getLast? ≠ Option.some []) :
    streamLines separator (List.intercalate [separator] cells) = cells := by
  rw [streamLines, List.splitOn_intercalate separator whole some]
  exact if_neg last

theorem notMem_intercalate {separator c : Char} {cells : List Text}
    (different : c ≠ separator) (whole : ∀ cell ∈ cells, c ∉ cell) :
    c ∉ List.intercalate [separator] cells := by
  induction cells with
  | nil => simp
  | cons cell cells ih =>
      have first := whole cell List.mem_cons_self
      have others := ih fun other member => whole other (.tail _ member)
      cases cells with
      | nil => simpa using first
      | cons next cells =>
          rw [List.intercalate_cons_cons]
          simp [first, different, others]

/-- Lines that were written one after another. -/
theorem streamLines_flatMap {α : Type} {separator : Char} {write : α → Text}
    {items : List α} (whole : ∀ item ∈ items, separator ∉ write item) :
    streamLines separator (items.flatMap fun item => write item ++ [separator]) =
      items.map write := by
  induction items with
  | nil => exact streamLines_nil separator
  | cons item items ih =>
      rw [List.flatMap_cons, List.append_assoc, List.singleton_append,
        streamLines_cons (whole item List.mem_cons_self),
        ih fun other member => whole other (List.mem_cons_of_mem _ member),
        List.map_cons]

/-- How many lines a text has: one for every separator and one more when it
does not end with it. -/
theorem length_streamLines (separator : Char) (text : Text) :
    (streamLines separator text).length =
      text.count separator +
        if text = [] ∨ text.getLast? = some separator then 0 else 1 := by
  rcases line_cases separator text with absent | ⟨line, rest, whole, rfl⟩
  · cases text with
    | nil => simp
    | cons first others =>
        have unterminated :
            (first :: others).getLast? ≠ some separator := fun last =>
          absent (List.mem_of_getLast? last)
        rw [streamLines_unterminated absent (by simp),
          List.count_eq_zero_of_not_mem absent]
        simp [unterminated]
  · have ih := length_streamLines separator rest
    have ending : (line ++ separator :: rest).getLast? = some separator ↔
        rest = [] ∨ rest.getLast? = some separator := by
      cases rest with
      | nil => simp
      | cons next rest => simp [List.getLast?_append, List.getLast?_cons]
    have counted : (line ++ separator :: rest).count separator =
        rest.count separator + 1 := by
      simp [List.count_append, List.count_eq_zero_of_not_mem whole]
    have nonempty : line ++ separator :: rest ≠ [] := by simp
    rw [streamLines_cons whole, List.length_cons, ih, counted]
    simp only [nonempty, false_or, ending]
    omega
termination_by text.length

end Concurrente
