import Concurrente.Common.Conversions

/-!
# Texts of numbers

The texts `std::stoll` reads a number from are white space, an optional sign
and digits.  Here such a text is built from its parts, and taken apart again.
-/

namespace Concurrente

/-- An optional sign and at least one digit. -/
structure SignedDigits where
  sign : Text
  digits : Text
  signed : sign = [] ∨ sign = ['+'] ∨ sign = ['-']
  nonempty : digits ≠ []
  decimal : ∀ c ∈ digits, c.isDigit = true

namespace SignedDigits

def text (number : SignedDigits) : Text := number.sign ++ number.digits

def value (number : SignedDigits) : Int :=
  if number.sign = ['-'] then -(Nat.ofDigitChars 10 number.digits 0 : Int)
  else Nat.ofDigitChars 10 number.digits 0

/-- The number is in the range of `int64_t`. -/
def Fits (number : SignedDigits) : Prop :=
  -2 ^ 63 ≤ number.value ∧ number.value < 2 ^ 63

instance (number : SignedDigits) : Decidable number.Fits :=
  inferInstanceAs (Decidable (_ ∧ _))

end SignedDigits

/-- A number with white space on either side. -/
structure PaddedNumber where
  leading : Text
  number : SignedDigits
  trailing : Text
  blanksLeading : ∀ c ∈ leading, isSpace c = true
  blanksTrailing : ∀ c ∈ trailing, isSpace c = true

def PaddedNumber.text (padded : PaddedNumber) : Text :=
  padded.leading ++ padded.number.text ++ padded.trailing

theorem SignedDigits.mem_text {number : SignedDigits} {c : Char}
    (member : c ∈ number.text) : c = '+' ∨ c = '-' ∨ c.isDigit = true := by
  rcases List.mem_append.mp member with sign | digit
  · rcases number.signed with none | plus | minus
    · simp [none] at sign
    · exact .inl (by simpa [plus] using sign)
    · exact .inr (.inl (by simpa [minus] using sign))
  · exact .inr (.inr (number.decimal c digit))

theorem ne_comma_of_isSpace {c : Char} (space : isSpace c = true) : c ≠ ',' := by
  rintro rfl
  simp [isSpace] at space

theorem SignedDigits.comma_not_mem (number : SignedDigits) : ',' ∉ number.text := by
  intro member
  rcases number.mem_text member with plus | minus | digit
  · simp at plus
  · simp at minus
  · simp at digit

theorem PaddedNumber.comma_not_mem (padded : PaddedNumber) : ',' ∉ padded.text := by
  intro member
  simp only [PaddedNumber.text, List.mem_append] at member
  rcases member with (leading | number) | trailing
  · exact ne_comma_of_isSpace (padded.blanksLeading _ leading) rfl
  · exact padded.number.comma_not_mem number
  · exact ne_comma_of_isSpace (padded.blanksTrailing _ trailing) rfl

theorem PaddedNumber.text_ne_nil (padded : PaddedNumber) : padded.text ≠ [] := by
  simp [PaddedNumber.text, SignedDigits.text, padded.number.nonempty]

theorem toNat_lt_of_isSpace {c : Char} (space : isSpace c = true) :
    c.toNat < 256 := by
  simp only [isSpace, Bool.or_eq_true, beq_iff_eq, Bool.and_eq_true,
    decide_eq_true_eq] at space
  rcases space with rfl | bounds
  · decide
  · omega

theorem SignedDigits.toNat_lt {number : SignedDigits} {c : Char}
    (member : c ∈ number.text) : c.toNat < 256 := by
  rcases number.mem_text member with rfl | rfl | digit
  · decide
  · decide
  · have bounds := isDigit_toNat digit
    omega

/-! ## Reading a number -/

theorem SignedDigits.scanSign_text (number : SignedDigits) (rest : Text) :
    scanSign (number.text ++ rest) =
      (decide (number.sign = ['-']), number.digits ++ rest) := by
  rcases number.signed with none | plus | minus
  · obtain ⟨first, others, shape⟩ := List.exists_cons_of_ne_nil number.nonempty
    have digit : first.isDigit = true :=
      number.decimal first (by simp [shape])
    simp [SignedDigits.text, none, shape, scanSign_of_isDigit digit]
  · simp [SignedDigits.text, plus, scanSign]
  · simp [SignedDigits.text, minus, scanSign]

theorem SignedDigits.dropWhile_isSpace_text (number : SignedDigits) (rest : Text) :
    (number.text ++ rest).dropWhile isSpace = number.text ++ rest := by
  obtain ⟨first, others, shape⟩ := List.exists_cons_of_ne_nil
    (show number.text ≠ [] by simp [SignedDigits.text, number.nonempty])
  have notSpace : isSpace first = false := by
    rcases number.mem_text (c := first) (by simp [shape]) with rfl | rfl | digit
    · rfl
    · rfl
    · exact isSpace_of_isDigit digit
  rw [shape]
  exact List.dropWhile_cons_of_neg (by simp [notSpace])

/-- The conversion skips the white space in front of the number and stops at
the white space behind it. -/
theorem PaddedNumber.scanNumeral_text (padded : PaddedNumber) :
    ∃ numeral, scanNumeral padded.text = some numeral ∧
      numeral.value = padded.number.value ∧ numeral.rest = padded.trailing := by
  have start : padded.text.dropWhile isSpace =
      padded.number.text ++ padded.trailing := by
    rw [PaddedNumber.text, List.append_assoc,
      List.dropWhile_append_of_pos padded.blanksLeading,
      padded.number.dropWhile_isSpace_text]
  have noDigit : ∀ c ∈ padded.trailing, ¬ c.isDigit = true := by
    intro c member digit
    have space := padded.blanksTrailing c member
    simp [isSpace_of_isDigit digit] at space
  have blanks : padded.trailing.takeWhile Char.isDigit = [] ∧
      padded.trailing.dropWhile Char.isDigit = padded.trailing := by
    cases same : padded.trailing with
    | nil => simp
    | cons c rest =>
        have first := noDigit c (by simp [same])
        simp [first]
  have digits : (padded.number.digits ++ padded.trailing).takeWhile Char.isDigit =
      padded.number.digits := by
    rw [List.takeWhile_append_of_pos padded.number.decimal, blanks.1,
      List.append_nil]
  have rest : (padded.number.digits ++ padded.trailing).dropWhile Char.isDigit =
      padded.trailing := by
    rw [List.dropWhile_append_of_pos padded.number.decimal, blanks.2]
  refine ⟨⟨decide (padded.number.sign = ['-']),
    Nat.ofDigitChars 10 padded.number.digits 0, padded.trailing⟩, ?_, ?_, rfl⟩
  · simp [scanNumeral, start, padded.number.scanSign_text, digits, rest,
      padded.number.nonempty]
  · simp [Numeral.value, SignedDigits.value]

theorem scanSign_cases (text : Text) :
    ∃ sign, (sign = [] ∨ sign = ['+'] ∨ sign = ['-']) ∧
      text = sign ++ (scanSign text).2 ∧
      (scanSign text).1 = decide (sign = ['-']) := by
  unfold scanSign
  split
  next => exact ⟨['-'], by simp, rfl, rfl⟩
  next => exact ⟨['+'], by simp, rfl, rfl⟩
  next => exact ⟨[], by simp, rfl, rfl⟩

/-- A text that is read to its end consists of white space and a number. -/
theorem exists_number_of_scanNumeral {text : Text} {numeral : Numeral}
    (scanned : scanNumeral text = some numeral) (whole : numeral.rest = []) :
    ∃ (blanks : Text) (number : SignedDigits),
      (∀ c ∈ blanks, isSpace c = true) ∧ text = blanks ++ number.text ∧
        number.value = numeral.value := by
  obtain ⟨sign, signed, shape, negative⟩ := scanSign_cases (text.dropWhile isSpace)
  unfold scanNumeral at scanned
  generalize (scanSign (text.dropWhile isSpace)) = scan at *
  obtain ⟨isNegative, body⟩ := scan
  dsimp only at scanned shape negative
  split at scanned
  next => contradiction
  next some =>
    obtain rfl := Option.some.inj scanned
    have digits : body.takeWhile Char.isDigit = body := by
      have both := List.takeWhile_append_dropWhile (p := Char.isDigit) (l := body)
      rwa [show body.dropWhile Char.isDigit = [] from whole, List.append_nil] at both
    rw [digits] at some ⊢
    refine ⟨text.takeWhile isSpace, ⟨sign, body, signed, by simpa using some,
      List.takeWhile_eq_self_iff.mp digits⟩, ?_, ?_, ?_⟩
    · intro c member
      exact List.mem_takeWhile_imp member
    · rw [SignedDigits.text, ← shape, List.takeWhile_append_dropWhile]
    · rw [SignedDigits.value, Numeral.value, negative]
      simp

end Concurrente
