import Concurrente.Common.Conversions

/-!
# Decoding of URIs

`Util::decodeURI` replaces escapes by the bytes they stand for.  A client is
free to choose which bytes it escapes, so the decoder is compared with a
relation between a text and its encodings rather than with one encoder.
-/

namespace Concurrente

/-- The value of a hexadecimal digit of either letter case. -/
def hexDigitValue (c : Char) : Option Nat :=
  if c.isDigit then some (c.toNat - '0'.toNat)
  else if 'a' ≤ c ∧ c ≤ 'f' then some (c.toNat - 'a'.toNat + 10)
  else if 'A' ≤ c ∧ c ≤ 'F' then some (c.toNat - 'A'.toNat + 10)
  else none

/-- The prefix `std::strtol` skips in base 16. -/
def dropHexPrefix : Text → Text
  | '0' :: 'x' :: rest => rest
  | '0' :: 'X' :: rest => rest
  | rest => rest

/-- `std::strtol(text, nullptr, 16)` for a text with few enough digits to
stay in the range of a `long`: blanks, a sign and a prefix are skipped, and a
text without digits reads as zero. -/
def strtolHex (text : Text) : Int :=
  let (negative, body) := scanSign ((cString text).dropWhile isSpace)
  let digits := (dropHexPrefix body).takeWhile fun c => (hexDigitValue c).isSome
  let values := digits.filterMap hexDigitValue
  let magnitude : Nat := values.foldl (fun sum digit => sum * 16 + digit) 0
  if negative then -(magnitude : Int) else magnitude

/-- `static_cast<char>` of a `long`. -/
def castToChar (value : Int) : Char := Char.ofNat (value % 256).toNat

/-- `Util::decodeURI`.  The loop advances over the characters still to be
read; an escape needs two more of them. -/
def decodeURI : Text → Text
  | [] => []
  | '%' :: high :: low :: rest =>
      castToChar (strtolHex [high, low, '\x00']) :: decodeURI rest
  | '%' :: rest => decodeURI rest
  | '+' :: rest => ' ' :: decodeURI rest
  | c :: rest => c :: decodeURI rest

theorem decodeURI_append {plain : Text} (notPercent : '%' ∉ plain)
    (notPlus : '+' ∉ plain) (rest : Text) :
    decodeURI (plain ++ rest) = plain ++ decodeURI rest := by
  induction plain with
  | nil => rfl
  | cons c plain ih =>
      simp only [List.mem_cons, not_or] at notPercent notPlus
      rw [List.cons_append, decodeURI, ih notPercent.2 notPlus.2, List.cons_append]
      · intro _ _ _ percent _
        exact notPercent.1 percent.symm
      · exact Ne.symm notPercent.1
      · exact Ne.symm notPlus.1

/-! ## Encodings of a text -/

/-- A hexadecimal digit for `value`, in lower or in upper case. -/
def IsHexDigit (value : Nat) (c : Char) : Prop :=
  c = Nat.digitChar value ∨ c = (Nat.digitChar value).toUpper

/-- The texts a client may send for a text: each byte is escaped, or a blank
is written as a plus sign, or a byte that is neither the percent nor the plus
sign stands for itself. -/
inductive Encoding : Text → Text → Prop
  | nil : Encoding [] []
  | escape {c high low : Char} {text encoded : Text}
      (byte : c.toNat < 256)
      (highDigit : IsHexDigit (c.toNat / 16) high)
      (lowDigit : IsHexDigit (c.toNat % 16) low)
      (rest : Encoding text encoded) :
      Encoding (c :: text) ('%' :: high :: low :: encoded)
  | blank {text encoded : Text} (rest : Encoding text encoded) :
      Encoding (' ' :: text) ('+' :: encoded)
  | literal {c : Char} {text encoded : Text}
      (notPercent : c ≠ '%') (notPlus : c ≠ '+')
      (rest : Encoding text encoded) :
      Encoding (c :: text) (c :: encoded)

theorem encoding_literals {plain text encoded : Text}
    (notPercent : '%' ∉ plain) (notPlus : '+' ∉ plain)
    (rest : Encoding text encoded) :
    Encoding (plain ++ text) (plain ++ encoded) := by
  induction plain with
  | nil => exact rest
  | cons c plain ih =>
      simp only [List.mem_cons, not_or] at notPercent notPlus
      exact .literal (Ne.symm notPercent.1) (Ne.symm notPlus.1)
        (ih notPercent.2 notPlus.2)

theorem exists_encoding (text : Text) : ∃ encoded, Encoding text encoded := by
  induction text with
  | nil => exact ⟨[], .nil⟩
  | cons c text ih =>
      obtain ⟨encoded, encoding⟩ := ih
      by_cases percent : c = '%'
      · subst percent
        exact ⟨_, .escape (by decide) (.inl rfl) (.inl rfl) encoding⟩
      by_cases plus : c = '+'
      · subst plus
        exact ⟨_, .escape (by decide) (.inl rfl) (.inl rfl) encoding⟩
      · exact ⟨_, .literal percent plus encoding⟩

/-- What the conversion routine looks at in a hexadecimal digit. -/
structure HexDigitFacts (value : Nat) (c : Char) : Prop where
  valueOf : hexDigitValue c = some value
  notSpace : isSpace c = false
  notSign : ∀ rest, scanSign (c :: rest) = (false, c :: rest)
  notPrefix : ∀ c', dropHexPrefix [c', c] = [c', c]
  notEnd : c ≠ '\x00'

theorem HexDigitFacts.of_ne {value : Nat} {c : Char}
    (valueOf : hexDigitValue c = some value) (notSpace : isSpace c = false)
    (notMinus : c ≠ '-') (notPlus : c ≠ '+') (notLower : c ≠ 'x')
    (notUpper : c ≠ 'X') (notEnd : c ≠ '\x00') : HexDigitFacts value c := by
  constructor
  · exact valueOf
  · exact notSpace
  · intro rest
    unfold scanSign
    split <;> simp_all
  · intro c'
    unfold dropHexPrefix
    split <;> simp_all
  · exact notEnd

theorem IsHexDigit.facts {value : Nat} {c : Char} (bound : value < 16)
    (digit : IsHexDigit value c) : HexDigitFacts value c := by
  rcases digit with rfl | rfl
  · interval_cases value <;> apply HexDigitFacts.of_ne <;> decide
  · interval_cases value <;> apply HexDigitFacts.of_ne <;> decide

theorem strtolHex_pair {high low : Nat} {c d : Char}
    (highFacts : HexDigitFacts high c) (lowFacts : HexDigitFacts low d) :
    strtolHex [c, d, '\x00'] = (high * 16 + low : Nat) := by
  have text : cString [c, d, '\x00'] = [c, d] := by
    simp [cString, highFacts.notEnd, lowFacts.notEnd]
  have start : [c, d].dropWhile isSpace = [c, d] :=
    List.dropWhile_cons_of_neg (by simp [highFacts.notSpace])
  simp [strtolHex, text, start, highFacts.notSign, lowFacts.notPrefix,
    highFacts.valueOf, lowFacts.valueOf]

theorem castToChar_toNat {c : Char} (byte : c.toNat < 256) :
    castToChar (c.toNat : Int) = c := by
  have small : ((c.toNat : Int) % 256).toNat = c.toNat := by omega
  rw [castToChar, small, Char.ofNat_toNat]

theorem decodeURI_escape {c high low : Char} (rest : Text)
    (byte : c.toNat < 256)
    (highDigit : IsHexDigit (c.toNat / 16) high)
    (lowDigit : IsHexDigit (c.toNat % 16) low) :
    decodeURI ('%' :: high :: low :: rest) = c :: decodeURI rest := by
  have value := strtolHex_pair (highDigit.facts (by omega))
    (lowDigit.facts (by omega))
  have whole : c.toNat / 16 * 16 + c.toNat % 16 = c.toNat := by omega
  rw [whole] at value
  rw [decodeURI, value, castToChar_toNat byte]

theorem Encoding.decodeURI_eq {text encoded : Text}
    (encoding : Encoding text encoded) : decodeURI encoded = text := by
  induction encoding with
  | nil => rfl
  | escape byte highDigit lowDigit rest ih =>
      rw [decodeURI_escape _ byte highDigit lowDigit, ih]
  | blank rest ih => rw [decodeURI, ih]
  | literal notPercent notPlus rest ih =>
      rw [decodeURI, ih]
      · intro _ _ _ percent _
        exact notPercent percent
      · exact notPercent
      · exact notPlus

/-- Decoding gives back the encoded text, and so does not depend on which
bytes the client chose to escape. -/
theorem decodeURI_inverts_encoding {text encoded : Text}
    (encoding : Encoding text encoded) :
    decodeURI encoded = text ∧
      ∀ other, Encoding text other → decodeURI other = decodeURI encoded := by
  constructor
  · exact encoding.decodeURI_eq
  · intro other chosen
    rw [chosen.decodeURI_eq, encoding.decodeURI_eq]

/-- Two encodings of one text, with a NUL, a byte above 127, a blank written
in both ways and an escape at the end. -/
theorem decodeURI_inverts_encoding_sample :
    decodeURI "7%00%fF+%2C".toList = ['7', '\x00', '\xff', ' ', ','] ∧
      decodeURI "%37%00%Ff%20,".toList = decodeURI "7%00%fF+%2C".toList := by
  have both := @decodeURI_inverts_encoding
    ['7', '\x00', '\xff', ' ', ','] "7%00%fF+%2C".toList
    (.literal (by decide) (by decide)
      (.escape (by decide) (.inl rfl) (.inl rfl)
        (.escape (by decide) (.inl rfl) (.inr rfl)
          (.blank (.escape (by decide) (.inl rfl) (.inr rfl) .nil)))))
  constructor
  · exact both.1
  · exact both.2 _
      (.escape (by decide) (.inl rfl) (.inl rfl)
        (.escape (by decide) (.inl rfl) (.inl rfl)
          (.escape (by decide) (.inr rfl) (.inl rfl)
            (.escape (by decide) (.inl rfl) (.inl rfl)
              (.literal (by decide) (by decide) .nil)))))

end Concurrente
