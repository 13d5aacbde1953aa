import Concurrente.Library.OrderedMap
import Concurrente.WebServer.Network.Socket

/-!
# HTTP messages

What requests and responses share: the socket, the protocol version, the
headers and the body.  Headers are an associative array whose comparison
ignores the case of letters.
-/

namespace Concurrente.WebServer.Http

open Library

/-- `std::lexicographical_compare`. -/
def lexicographicalCompare (less : Char → Char → Bool) : Text → Text → Bool
  | [], [] => false
  | [], _ :: _ => true
  | _ :: _, [] => false
  | c1 :: s1, c2 :: s2 =>
      if less c1 c2 then true
      else if less c2 c1 then false
      else lexicographicalCompare less s1 s2

/-- `IgnoreCaseLess::CompareChar`. -/
def compareChar (c1 c2 : Char) : Bool := c1.toLower < c2.toLower

/-- `IgnoreCaseLess`. -/
def ignoreCaseLess (s1 s2 : Text) : Bool :=
  lexicographicalCompare compareChar s1 s2

/-- A text with its letters in lower case. -/
def toLower (text : Text) : Text := text.map Char.toLower

theorem ignoreCaseLess_iff (s1 s2 : Text) :
    ignoreCaseLess s1 s2 = true ↔ toLower s1 < toLower s2 := by
  unfold ignoreCaseLess toLower
  induction s1 generalizing s2 with
  | nil => cases s2 <;> simp [lexicographicalCompare]
  | cons c1 s1 ih =>
      cases s2 with
      | nil => simp [lexicographicalCompare]
      | cons c2 s2 =>
          rw [lexicographicalCompare, List.map_cons, List.map_cons,
            List.cons_lt_cons_iff]
          by_cases before : c1.toLower < c2.toLower
          · simp [compareChar, before]
          by_cases behind : c2.toLower < c1.toLower
          · simp [compareChar, before, behind, behind.ne']
          · have same : c1.toLower = c2.toLower :=
              le_antisymm (not_lt.mp behind) (not_lt.mp before)
            simp [compareChar, same, ih]

/-- The order of header keys: lexicographical, whatever the case of their
letters. -/
def ignoreCase : Comparison Text Text where
  less := ignoreCaseLess
  fold := toLower
  less_iff := ignoreCaseLess_iff

/-- `HttpMessage::Headers`. -/
abbrev Headers := OrderedMap ignoreCase Text

structure HttpMessage where
  socket : SharedSocket
  httpVersion : Text
  headers : Headers
  body : Text

namespace HttpMessage

/-- `HttpMessage::lineSeparator`. -/
def lineSeparator : Text := ['\r', '\n']

/-- A message without headers and body, as its constructor leaves it. -/
def ofSocket (socket : SharedSocket) : HttpMessage :=
  { socket, httpVersion := [], headers := .empty ignoreCase, body := [] }

/-- `HttpMessage::setHeader`. -/
def setHeader (message : HttpMessage) (key value : Text) : HttpMessage :=
  { message with headers := message.headers.assign key value }

/-- `HttpMessage::getHeader`. -/
def getHeader (message : HttpMessage) (key defaultValue : Text) : Text :=
  (message.headers.find key).getD defaultValue

/-- `HttpMessage::getBodyLength`. -/
def getBodyLength (message : HttpMessage) : Nat := message.body.length

/-- `std::isgraph` in the default locale. -/
def isGraph (c : Char) : Bool := 33 ≤ c.toNat && c.toNat ≤ 126

/-- `HttpMessage::guessContentType`. -/
def guessContentType (message : HttpMessage) : Text :=
  match message.body with
  | [] => []
  | first :: _ =>
      if first = '<' then "text/html".toList
      else if isGraph first then "text/plain".toList
      else "application/octet-stream".toList

/-- A header keeps its value until it is set again, in whatever case its key
is written. -/
theorem getHeader_setHeader (message : HttpMessage)
    (key other value defaultValue : Text) :
    (message.setHeader key value).getHeader other defaultValue =
      if toLower key = toLower other then value
      else message.getHeader other defaultValue := by
  unfold getHeader setHeader
  rw [OrderedMap.find_assign]
  by_cases same : toLower key = toLower other <;> simp [ignoreCase, same]

theorem getHeader_eq_nil_iff (message : HttpMessage) (key : Text) :
    message.getHeader key [] = [] ↔
      message.headers.find key = none ∨ message.headers.find key = some [] := by
  unfold getHeader
  cases message.headers.find key with
  | none => simp
  | some value => simp

/-- A guess has no colon, so it is never a header line. -/
theorem plain_guessContentType (message : HttpMessage) :
    ':' ∉ message.guessContentType ∧ '\n' ∉ message.guessContentType := by
  unfold guessContentType
  split
  · simp
  split
  · decide
  split <;> decide

theorem guessContentType_eq_nil_iff (message : HttpMessage) :
    message.guessContentType = [] ↔ message.body = [] := by
  unfold guessContentType
  cases message.body with
  | nil => simp
  | cons first rest =>
      simp only [reduceCtorEq, iff_false]
      split
      · decide
      split <;> decide

end HttpMessage

end Concurrente.WebServer.Http
