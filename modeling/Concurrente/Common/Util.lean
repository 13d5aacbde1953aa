import Concurrente.Common.Conversions

/-!
# Splitting texts

`Util::split` is a search loop over positions of a text.  For a delimiter of
one character it is the usual splitting of a list, which is the form the wire
formats rely on.
-/

namespace Concurrente

/-- `std::string::find` from the start: where `sub` occurs first. -/
def find (sub : Text) : Text → Option Nat
  | [] => if sub.isEmpty then some 0 else none
  | c :: text =>
      if sub.isPrefixOf (c :: text) then some 0
      else (find sub text).map (· + 1)

/-- `std::string::find` with a starting position. -/
def findFrom (text sub : Text) (pos : Nat) : Option Nat :=
  if pos ≤ text.length then (find sub (text.drop pos)).map (· + pos) else none

/-- `std::string::rfind` of a character: where it occurs last. -/
def rfind (c : Char) : Text → Option Nat
  | [] => none
  | head :: text =>
      match rfind c text with
      | some pos => some (pos + 1)
      | none => if head = c then some 0 else none

/-- `std::string::substr` with a starting position inside the text. -/
def substr (text : Text) (pos : Nat) : Text := text.drop pos

theorem find_le {sub text : Text} {pos : Nat}
    (found : find sub text = some pos) : pos ≤ text.length := by
  induction text generalizing pos with
  | nil =>
      simp only [find] at found
      split at found <;> simp_all
  | cons c text ih =>
      simp only [find] at found
      split at found
      · obtain rfl := Option.some.inj found
        exact Nat.zero_le _
      · obtain ⟨later, laterFound, rfl⟩ := Option.map_eq_some_iff.mp found
        have bound := ih laterFound
        simp
        omega

theorem findFrom_bounds {text sub : Text} {start pos : Nat}
    (found : findFrom text sub start = some pos) :
    start ≤ pos ∧ pos ≤ text.length := by
  unfold findFrom at found
  split at found
  · obtain ⟨later, laterFound, rfl⟩ := Option.map_eq_some_iff.mp found
    have bound := find_le laterFound
    simp at bound
    omega
  · simp at found

/-- Where the next token ends: at the delimiter or at the end of the text. -/
def tokenEnd (text delim : Text) (lastPos : Nat) : Nat :=
  (findFrom text delim lastPos).getD text.length

theorem tokenEnd_bounds {text : Text} {lastPos : Nat} (delim : Text)
    (inside : lastPos ≤ text.length) :
    lastPos ≤ tokenEnd text delim lastPos ∧
      tokenEnd text delim lastPos ≤ text.length := by
  unfold tokenEnd
  cases found : findFrom text delim lastPos with
  | none => exact ⟨inside, le_refl _⟩
  | some pos => exact findFrom_bounds found

/-- The loop of `Util::tokenize`, entered with `lastPos`. -/
def tokenizeFrom (text delim : Text) (trimEmpty : Bool)
    (lastPos : Nat) : List Text :=
  if _ : lastPos < text.length + 1 then
    let pos := tokenEnd text delim lastPos
    let later := tokenizeFrom text delim trimEmpty (pos + 1)
    if pos ≠ lastPos || !trimEmpty then
      (text.drop lastPos).take (pos - lastPos) :: later
    else later
  else []
termination_by text.length + 1 - lastPos
decreasing_by
  have bounds := tokenEnd_bounds delim (by omega : lastPos ≤ text.length)
  omega

/-- `Util::split`. -/
def split (text delim : Text) (trimEmpty : Bool) : List Text :=
  tokenizeFrom text delim trimEmpty 0

/-! ## Splitting at one character -/

theorem find_char_of_not_mem {c : Char} {text : Text} (absent : c ∉ text) :
    find [c] text = none := by
  induction text with
  | nil => simp [find]
  | cons head text ih =>
      simp only [List.mem_cons, not_or] at absent
      simp [find, ih absent.2, absent.1]

theorem find_char_append {c : Char} {token : Text} (rest : Text)
    (absent : c ∉ token) : find [c] (token ++ c :: rest) = some token.length := by
  induction token with
  | nil => simp [find]
  | cons head token ih =>
      simp only [List.mem_cons, not_or] at absent
      simp [find, ih absent.2, absent.1]

theorem rfind_of_not_mem {c : Char} {text : Text} (absent : c ∉ text) :
    rfind c text = none := by
  induction text with
  | nil => rfl
  | cons head text ih =>
      simp only [List.mem_cons, not_or] at absent
      simp [rfind, ih absent.2, Ne.symm absent.1]

theorem rfind_append {c : Char} (before : Text) {after : Text}
    (absent : c ∉ after) : rfind c (before ++ c :: after) = some before.length := by
  induction before with
  | nil => simp [rfind, rfind_of_not_mem absent]
  | cons head before ih => simp [rfind, ih]

/-- A text is one token, or a token, the delimiter and the rest. -/
private theorem token_cases (c : Char) (text : Text) :
    c ∉ text ∨ ∃ token rest, c ∉ token ∧ text = token ++ c :: rest := by
  by_cases member : c ∈ text
  · obtain ⟨token, rest, rfl, absent⟩ := List.eq_append_cons_of_mem member
    exact .inr ⟨token, rest, absent, rfl⟩
  · exact .inl member

theorem tokenizeFrom_char (text : Text) (c : Char) (lastPos : Nat)
    (inside : lastPos ≤ text.length) :
    tokenizeFrom text [c] false lastPos = (text.drop lastPos).splitOn c := by
  rw [tokenizeFrom, dif_pos (by omega)]
  rcases token_cases c (text.drop lastPos) with absent | ⟨token, rest, absent, shape⟩
  · have last : tokenEnd text [c] lastPos = text.length := by
      simp [tokenEnd, findFrom, inside, find_char_of_not_mem absent]
    have finished : tokenizeFrom text [c] false (text.length + 1) = [] := by
      rw [tokenizeFrom, dif_neg (by omega)]
    have whole : (text.drop lastPos).take (text.length - lastPos) =
        text.drop lastPos := List.take_of_length_le (by simp)
    simp [last, finished, whole, List.splitOn_eq_singleton absent]
  · have delimiter : tokenEnd text [c] lastPos = lastPos + token.length := by
      simp [tokenEnd, findFrom, inside, shape, find_char_append rest absent,
        Nat.add_comm]
    have lengths : text.length - lastPos = token.length + (rest.length + 1) := by
      simpa using congrArg List.length shape
    have later : text.drop (lastPos + token.length + 1) = rest := by
      have dropped := congrArg (List.drop (token.length + 1)) shape
      simpa [List.drop_drop, Nat.add_assoc] using dropped
    have ih := tokenizeFrom_char text c (lastPos + token.length + 1) (by omega)
    simp [delimiter, ih, later, shape,
      List.splitOn_append_cons_self_of_not_mem absent]
termination_by text.length - lastPos

/-- Without trimming, splitting at one character loses nothing. -/
theorem split_char (text : Text) (c : Char) :
    split text [c] false = text.splitOn c := by
  simpa [split] using tokenizeFrom_char text c 0 (Nat.zero_le _)

/-- Trimming drops the empty tokens and nothing else. -/
theorem tokenizeFrom_trim (text delim : Text) (lastPos : Nat) :
    tokenizeFrom text delim true lastPos =
      (tokenizeFrom text delim false lastPos).filter (fun token => !token.isEmpty) := by
  rw [tokenizeFrom, tokenizeFrom]
  split
  next inside =>
    have bounds := tokenEnd_bounds delim (by omega : lastPos ≤ text.length)
    have ih := tokenizeFrom_trim text delim (tokenEnd text delim lastPos + 1)
    by_cases same : tokenEnd text delim lastPos = lastPos
    · rw [same] at ih
      simp [same, ih]
    · have nonempty :
          (text.drop lastPos).take (tokenEnd text delim lastPos - lastPos) ≠ [] := by
        rw [← List.length_pos_iff]
        simp
        omega
      simp [same, ih, nonempty]
  next => rfl
termination_by text.length + 1 - lastPos

theorem split_trim (text delim : Text) :
    split text delim true =
      (split text delim false).filter (fun token => !token.isEmpty) :=
  tokenizeFrom_trim text delim 0

end Concurrente
