import Mathlib

/-!
# Text and number conversions

A `std::string` is a list of characters, each of them one byte.  This file
follows the documented behaviour of the standard conversions the servers use:
`std::to_string` and stream insertion of integers in one direction,
`std::stoul` and `std::stoll` in the other, with `unsigned long` and
`long long` of 64 bits.
-/

namespace Concurrente

/-- Contents of a `std::string`. -/
abbrev Text := List Char

/-- The standard exception classes the code throws or catches, with the text
that `what()` returns. -/
inductive StdException where
  | invalidArgument (what : Text)
  | outOfRange (what : Text)
  | runtimeError (what : Text)
  deriving DecidableEq, Repr

/-- What a C string holds: the characters up to the first NUL. -/
def cString (text : Text) : Text := text.takeWhile (· ≠ '\x00')

/-- `std::isspace` in the default locale. -/
def isSpace (c : Char) : Bool :=
  c == ' ' || (9 ≤ c.toNat && c.toNat ≤ 13)

/-- What `std::strtol` and its relatives find at the start of a text: an
optional sign, the value of the digits and the characters after them. -/
structure Numeral where
  negative : Bool
  magnitude : Nat
  rest : Text
  deriving DecidableEq, Repr

/-- Splits off the optional sign of a number. -/
def scanSign : Text → Bool × Text
  | '-' :: rest => (true, rest)
  | '+' :: rest => (false, rest)
  | rest => (false, rest)

/-- Blanks, an optional sign and at least one decimal digit. -/
def scanNumeral (text : Text) : Option Numeral :=
  let (negative, body) := scanSign (text.dropWhile isSpace)
  let digits := body.takeWhile Char.isDigit
  if digits.isEmpty then none
  else some
    { negative := negative
      magnitude := Nat.ofDigitChars 10 digits 0
      rest := body.dropWhile Char.isDigit }

/-- `std::stoul`: a minus sign is accepted and wraps around. -/
def stoul (text : Text) : Except StdException UInt64 :=
  match scanNumeral text with
  | none => .error (.invalidArgument "stoul".toList)
  | some numeral =>
      if numeral.magnitude < 2 ^ 64 then
        let value := UInt64.ofNat numeral.magnitude
        .ok (if numeral.negative then -value else value)
      else .error (.outOfRange "stoul".toList)

/-- The integer a numeral denotes. -/
def Numeral.value (numeral : Numeral) : Int :=
  if numeral.negative then -(numeral.magnitude : Int) else numeral.magnitude

/-- `std::stoll` with its second argument: the value and the number of
characters it was read from. -/
def stollPos (text : Text) : Except StdException (Int64 × Nat) :=
  match scanNumeral text with
  | none => .error (.invalidArgument "stoll".toList)
  | some numeral =>
      if -2 ^ 63 ≤ numeral.value ∧ numeral.value < 2 ^ 63 then
        .ok (Int64.ofInt numeral.value, text.length - numeral.rest.length)
      else .error (.outOfRange "stoll".toList)

/-- `std::stoll` without its second argument. -/
def stoll (text : Text) : Except StdException Int64 :=
  (stollPos text).map Prod.fst

/-- Insertion of an `unsigned long` into a stream. -/
def unsignedToString (value : UInt64) : Text :=
  Nat.toDigits 10 value.toNat

/-- `std::to_string` of a `long long`. -/
def longToString (value : Int64) : Text :=
  if value.toInt < 0 then '-' :: Nat.toDigits 10 value.toInt.natAbs
  else Nat.toDigits 10 value.toInt.natAbs

theorem cString_of_notMem {text : Text} (absent : '\x00' ∉ text) :
    cString text = text := by
  apply List.takeWhile_eq_self_iff.mpr
  intro c member
  have different : c ≠ '\x00' := fun same => absent (same ▸ member)
  simp [different]

theorem cString_append {text : Text} (plain : '\x00' ∉ text) (rest : Text) :
    cString (text ++ rest) = text ++ cString rest := by
  unfold cString
  apply List.takeWhile_append_of_pos
  intro c member
  have different : c ≠ '\x00' := by
    rintro rfl
    exact plain member
  simpa using different

/-! ## What printed numbers look like -/

theorem isDigit_of_mem_toDigits {n : Nat} {c : Char}
    (member : c ∈ Nat.toDigits 10 n) : c.isDigit = true :=
  Nat.isDigit_of_mem_toDigits (by decide) (by decide) member

theorem isDigit_toNat {c : Char} (digit : c.isDigit = true) :
    48 ≤ c.toNat ∧ c.toNat ≤ 57 := by
  simp only [Char.isDigit, Bool.and_eq_true, decide_eq_true_eq] at digit
  exact ⟨UInt32.le_iff_toNat_le.mp digit.1, UInt32.le_iff_toNat_le.mp digit.2⟩

theorem isSpace_of_isDigit {c : Char} (digit : c.isDigit = true) :
    isSpace c = false := by
  have bounds := isDigit_toNat digit
  have notBlank : c ≠ ' ' := by
    rintro rfl
    simp at bounds
  simp [isSpace, notBlank]
  omega

theorem scanSign_of_isDigit {c : Char} {rest : Text}
    (digit : c.isDigit = true) : scanSign (c :: rest) = (false, c :: rest) := by
  have notMinus : c ≠ '-' := by
    rintro rfl
    simp at digit
  have notPlus : c ≠ '+' := by
    rintro rfl
    simp at digit
  unfold scanSign
  split <;> simp_all

/-- The characters of a printed number: digits and, in front, a minus sign. -/
theorem mem_longToString {value : Int64} {c : Char}
    (member : c ∈ longToString value) : c = '-' ∨ c.isDigit = true := by
  unfold longToString at member
  split at member
  · rcases List.mem_cons.mp member with sign | digit
    · exact .inl sign
    · exact .inr (isDigit_of_mem_toDigits digit)
  · exact .inr (isDigit_of_mem_toDigits member)

theorem not_mem_longToString {value : Int64} {c : Char}
    (notMinus : c ≠ '-') (notDigit : c.isDigit = false) :
    c ∉ longToString value := by
  intro member
  rcases mem_longToString member with sign | digit
  · exact notMinus sign
  · simp [digit] at notDigit

theorem longToString_ne_nil (value : Int64) : longToString value ≠ [] := by
  unfold longToString
  split <;> simp

theorem not_mem_unsignedToString {value : UInt64} {c : Char}
    (notDigit : c.isDigit = false) : c ∉ unsignedToString value := by
  intro member
  simp [isDigit_of_mem_toDigits member] at notDigit

theorem unsignedToString_ne_nil (value : UInt64) :
    unsignedToString value ≠ [] := by
  simp [unsignedToString]

/-- A printed number of 64 bits has at most twenty digits. -/
theorem length_toDigits_le {n : Nat} (bound : n < 2 ^ 64) :
    (Nat.toDigits 10 n).length ≤ 20 :=
  (Nat.length_toDigits_le_iff (by decide) (by decide)).mpr (by omega)

theorem length_unsignedToString_le (value : UInt64) :
    (unsignedToString value).length ≤ 20 :=
  length_toDigits_le value.toNat_lt

theorem length_longToString_le (value : Int64) :
    (longToString value).length ≤ 21 := by
  have lower := value.le_toInt
  have upper := value.toInt_lt
  have digits : (Nat.toDigits 10 value.toInt.natAbs).length ≤ 20 :=
    length_toDigits_le (by omega)
  unfold longToString
  split
  · rw [List.length_cons]
    omega
  · omega

/-! ## Round trips -/

/-- Digits alone are a number, whatever zeros they start with. -/
theorem scanNumeral_digits {digits : Text} (nonempty : digits ≠ [])
    (decimal : ∀ c ∈ digits, c.isDigit = true) :
    scanNumeral digits =
      some
        { negative := false
          magnitude := Nat.ofDigitChars 10 digits 0
          rest := [] } := by
  have taken := List.takeWhile_eq_self_iff.mpr decimal
  have dropped := List.dropWhile_eq_nil_iff.mpr decimal
  cases digits with
  | nil => exact (nonempty rfl).elim
  | cons first others =>
      have digit := decimal first List.mem_cons_self
      have noBlank : (first :: others).dropWhile isSpace = first :: others :=
        List.dropWhile_cons_of_neg (by simp [isSpace_of_isDigit digit])
      simp [scanNumeral, noBlank, scanSign_of_isDigit digit, taken, dropped]

theorem scanNumeral_toDigits (n : Nat) :
    scanNumeral (Nat.toDigits 10 n) =
      some { negative := false, magnitude := n, rest := [] } := by
  have scanned := @scanNumeral_digits (Nat.toDigits 10 n) (by simp)
    fun _ member => isDigit_of_mem_toDigits member
  simpa using scanned

theorem scanNumeral_minus_toDigits (n : Nat) :
    scanNumeral ('-' :: Nat.toDigits 10 n) =
      some { negative := true, magnitude := n, rest := [] } := by
  have decimal : ∀ c ∈ Nat.toDigits 10 n, c.isDigit = true :=
    fun _ member => isDigit_of_mem_toDigits member
  have taken := List.takeWhile_eq_self_iff.mpr decimal
  have dropped := List.dropWhile_eq_nil_iff.mpr decimal
  have noBlank : ('-' :: Nat.toDigits 10 n).dropWhile isSpace =
      '-' :: Nat.toDigits 10 n :=
    List.dropWhile_cons_of_neg (by decide)
  simp [scanNumeral, noBlank, scanSign, taken, dropped]

@[simp] theorem stoul_unsignedToString (value : UInt64) :
    stoul (unsignedToString value) = .ok value := by
  have bound : value.toNat < 2 ^ 64 := value.toNat_lt
  simp only [stoul, unsignedToString, scanNumeral_toDigits, if_pos bound]
  simp

theorem scanNumeral_longToString (value : Int64) :
    ∃ numeral, scanNumeral (longToString value) = some numeral ∧
      numeral.value = value.toInt ∧ numeral.rest = [] := by
  unfold longToString
  split
  · refine ⟨_, scanNumeral_minus_toDigits _, ?_, rfl⟩
    simp only [Numeral.value, if_true]
    omega
  · refine ⟨_, scanNumeral_toDigits _, ?_, rfl⟩
    simp only [Numeral.value]
    simp
    omega

/-- A printed number is read back whole. -/
theorem stollPos_longToString (value : Int64) :
    stollPos (longToString value) =
      .ok (value, (longToString value).length) := by
  obtain ⟨numeral, scanned, denotes, whole⟩ := scanNumeral_longToString value
  have lower := value.le_toInt
  have upper := value.toInt_lt
  simp only [stollPos, scanned, denotes, whole]
  rw [if_pos ⟨lower, upper⟩]
  simp

@[simp] theorem stoll_longToString (value : Int64) :
    stoll (longToString value) = .ok value := by
  simp [stoll, stollPos_longToString, Except.map]

/-- The line that stops a peer reads as the largest `unsigned long`. -/
theorem stoul_stop_line : stoul "-1".toList = .ok (UInt64.ofNat (2 ^ 64 - 1)) := by
  decide

end Concurrente
