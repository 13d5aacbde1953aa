import Concurrente.Common.NumberTexts
import Concurrente.Common.Uri
import Concurrente.Common.Util

/-!
# Numbers asked in a URI

The calculator applications take their queries from the URI of a request, once
to build the queries and once more to format the response.  Both walks decode
the URI, look for the start of the numbers and split them at commas.
-/

namespace Concurrente.WebServer

/-- The two calculator applications. -/
inductive CalcApp where
  | fact
  | goldbach
  deriving DecidableEq, Repr

/-- `CalcWebApp::appPrefix`, also the action of the form on the home page. -/
def CalcApp.appPrefix : CalcApp → Text
  | .fact => "/fact".toList
  | .goldbach => "/goldbach".toList

/-- `CalcWebApp::canHandleHttpRequest`. -/
def CalcApp.canHandle (app : CalcApp) (uri : Text) : Bool :=
  app.appPrefix.isPrefixOf uri

/-- The conversion inside the `try` block of both walks: the whole text has to
be a number. -/
def convertNumber (text : Text) : Except StdException Int64 :=
  match stollPos text with
  | .error error => .error error
  | .ok (value, readTo) =>
      if readTo ≠ text.length then
        .error (.runtimeError ("invalid number ".toList ++ text))
      else .ok value

/-- The texts `CalcWebApp::parseRequest` converts.  Without an equals sign and
without a slash the position `npos` wraps around to the start. -/
def requestTexts (httpUri : Text) : List Text :=
  let uri := decodeURI httpUri
  let numbersStart :=
    match find ['='] uri with
    | some pos => pos + 1
    | none =>
        match rfind '/' uri with
        | some pos => pos + 1
        | none => 0
  split (substr uri numbersStart) [','] true

/-- `CalcWebApp::parseRequest`: invalid texts are ignored. -/
def parseRequest (httpUri : Text) (queries : List Int64) : List Int64 :=
  queries ++ (requestTexts httpUri).filterMap fun text => (convertNumber text).toOption

/-- A number is read back when nothing follows it, and otherwise the end the
conversion reports is not the end of the text. -/
theorem convertNumber_padded (padded : PaddedNumber)
    (fits : padded.number.Fits) :
    (convertNumber padded.text).toOption =
      if padded.trailing = [] then some (Int64.ofInt padded.number.value)
      else none := by
  obtain ⟨numeral, scanned, denotes, stop⟩ := padded.scanNumeral_text
  have position : stollPos padded.text = .ok (Int64.ofInt padded.number.value,
      padded.text.length - padded.trailing.length) := by
    simp only [stollPos, scanned, denotes, stop]
    exact if_pos fits
  by_cases last : padded.trailing = []
  · have whole : padded.text.length - padded.trailing.length =
        padded.text.length := by simp [last]
    simp only [convertNumber, position, if_neg (not_not.mpr whole), if_pos last]
    rfl
  · have nonempty := List.length_pos_iff.mpr last
    have early : padded.text.length - padded.trailing.length ≠
        padded.text.length := by
      simp only [PaddedNumber.text, List.length_append]
      omega
    simp only [convertNumber, position, if_pos early, if_neg last]
    rfl

/-- A complete literal of an `int64_t`, as `std::stoll` reads it: white space
may stand in front of the number, and nothing follows it. -/
def IsLiteral (text : Text) (value : Int64) : Prop :=
  ∃ (blanks : Text) (number : SignedDigits),
    (∀ c ∈ blanks, isSpace c = true) ∧ text = blanks ++ number.text ∧
      number.Fits ∧ value = Int64.ofInt number.value

theorem convertNumber_eq_ok_iff {text : Text} {value : Int64} :
    convertNumber text = .ok value ↔ IsLiteral text value := by
  constructor
  · intro converted
    unfold convertNumber stollPos at converted
    cases scanned : scanNumeral text with
    | none => simp [scanned] at converted
    | some numeral =>
        by_cases fits : -2 ^ 63 ≤ numeral.value ∧ numeral.value < 2 ^ 63
        · simp only [scanned, if_pos fits] at converted
          split at converted
          next => contradiction
          next readAll =>
            have nonempty : text ≠ [] := by
              rintro rfl
              contradiction
            have positive := List.length_pos_iff.mpr nonempty
            have whole : numeral.rest = [] := by
              rw [← List.length_eq_zero_iff]
              omega
            obtain ⟨blanks, number, allBlank, shape, same⟩ :=
              exists_number_of_scanNumeral scanned whole
            refine ⟨blanks, number, allBlank, shape, ?_, ?_⟩
            · rw [SignedDigits.Fits, same]
              exact fits
            · rw [same]
              exact (Except.ok.inj converted).symm
        · simp only [scanned, if_neg fits] at converted
          contradiction
  · rintro ⟨blanks, number, allBlank, rfl, fits, rfl⟩
    have read := convertNumber_padded ⟨blanks, number, [], allBlank, by simp⟩ fits
    simp only [PaddedNumber.text, List.append_nil, if_true] at read
    cases converted : convertNumber (blanks ++ number.text) with
    | error error => simp [converted, Except.toOption] at read
    | ok value => simpa [converted, Except.toOption] using read

/-- The numbers start after the first equals sign. -/
theorem requestTexts_of_equals {httpUri before values : Text}
    (decoded : decodeURI httpUri = before ++ '=' :: values)
    (absent : '=' ∉ before) :
    requestTexts httpUri =
      (values.splitOn ',').filter (fun token => !token.isEmpty) := by
  have start : find ['='] (decodeURI httpUri) = some before.length := by
    rw [decoded]
    exact find_char_append values absent
  have later : substr (decodeURI httpUri) (before.length + 1) = values := by
    simp [decoded, substr, List.drop_append]
  simp only [requestTexts, start, later]
  rw [split_trim, split_char]

end Concurrente.WebServer
