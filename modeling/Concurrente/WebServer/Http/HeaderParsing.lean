import Concurrente.WebServer.Http.HttpRequest
import Concurrente.WebServer.Network.Delivery

/-!
# What a header block says

`parseHeader` takes lines until an empty one.  The headers it collects are
those of the lines before, the last one of each key.
-/

namespace Concurrente.WebServer.Http

open Library

/-! ## Header lines -/

/-- A line that is empty without its carriage return. -/
def isBlank (line : Text) : Bool := (removeTrailingCR line).isEmpty

/-- A text without its first character, if that is a white space. -/
def removeLeadingSpace : Text → Text
  | [] => []
  | c :: text => if isSpace c then text else c :: text

/-- The text before the first colon of a line. -/
def headerKey (line : Text) : Text := line.takeWhile (· != ':')

/-- The text behind the first colon of a line, without its carriage return and
without the white space in front of it. -/
def headerValue (line : Text) : Text :=
  removeLeadingSpace (removeTrailingCR (line.dropWhile (· != ':')).tail)

/-- What a line with a colon sets. -/
def headerPair (line : Text) : Text × Text := (headerKey line, headerValue line)

/-- The lines before the first blank one. -/
def headerLines (lines : List Text) : List Text :=
  lines.takeWhile fun line => !isBlank line

/-- The lines behind the first blank one. -/
def behindHeader (lines : List Text) : List Text :=
  (lines.dropWhile fun line => !isBlank line).tail

/-- The value the last of some lines gives to a key, whatever the case of its
letters. -/
def lastHeader (lines : List Text) (key : Text) : Option Text :=
  (lines.filter fun line =>
    toLower (headerKey line) = toLower key).getLast?.map headerValue

theorem mem_headerLines {before : List Text} {line : Text}
    (notBlank : ∀ other ∈ before ++ [line], isBlank other = false)
    (after : List Text) : line ∈ headerLines (before ++ line :: after) := by
  have front : ∀ other ∈ before, (!isBlank other) = true := by
    intro other member
    simp [notBlank other (List.mem_append_left _ member)]
  have own := notBlank line (by simp)
  rw [headerLines, List.takeWhile_append_of_pos front,
    List.takeWhile_cons_of_pos (by simp [own])]
  simp

theorem removeTrailingCR_append {c : Char} (different : c ≠ '\r')
    (before after : Text) :
    removeTrailingCR (before ++ c :: after) =
      before ++ c :: removeTrailingCR after := by
  rcases List.eq_nil_or_concat after with rfl | ⟨front, last, rfl⟩
  · simp [removeTrailingCR, different]
  · have shape : before ++ c :: (front ++ [last]) =
        (before ++ c :: front) ++ [last] := by simp
    rw [List.concat_eq_append, shape]
    unfold removeTrailingCR
    rw [List.getLast?_concat, List.getLast?_concat, List.dropLast_concat,
      List.dropLast_concat]
    split <;> simp

theorem headerField_of_notMem {text : Text} (absent : ':' ∉ text) :
    headerField text = none := by
  rw [headerField, find_char_of_not_mem absent]

/-- The positions around the colon: the key is before it, and one white space
behind it is skipped. -/
theorem headerField_colon {key : Text} (absent : ':' ∉ key) (after : Text) :
    headerField (key ++ ':' :: after) = some (key, removeLeadingSpace after) := by
  rw [headerField, find_char_append after absent]
  have front : (key ++ ':' :: after).take key.length = key := by simp
  have behind : (key ++ ':' :: after).drop (key.length + 1) = after := by
    simp [List.drop_append]
  have next : (key ++ ':' :: after)[key.length + 1]? = after[0]? := by
    rw [List.getElem?_append_right (Nat.le_add_right _ 1),
      Nat.add_sub_cancel_left, List.getElem?_cons_succ]
  simp only [front, next, substr]
  cases after with
  | nil => simp [behind, removeLeadingSpace]
  | cons c after =>
      have further : (key ++ ':' :: c :: after).drop (key.length + 1 + 1) =
          after := by
        rw [← List.drop_drop, behind]
        rfl
      by_cases space : isSpace c = true
      · simp [space, further, removeLeadingSpace]
      · simp [space, behind, removeLeadingSpace]

theorem not_isBlank_of_colon {line : Text} (colon : ':' ∈ line) :
    isBlank line = false := by
  obtain ⟨key, after, rfl⟩ := List.append_of_mem colon
  rw [isBlank, removeTrailingCR_append (by decide)]
  simp

/-- The pair of a line with a colon. -/
theorem headerField_of_mem {line : Text} (colon : ':' ∈ line) :
    headerField (removeTrailingCR line) = some (headerPair line) := by
  obtain ⟨key, after, rfl, absent⟩ := List.eq_append_cons_of_mem colon
  have keyed : headerKey (key ++ ':' :: after) = key := takeWhile_line absent after
  have valued : headerValue (key ++ ':' :: after) =
      removeLeadingSpace (removeTrailingCR after) := by
    rw [headerValue, dropWhile_line absent, List.tail_cons]
  rw [removeTrailingCR_append (by decide), headerField_colon absent,
    headerPair, keyed, valued]

theorem headerField_of_not_colon {line : Text} (absent : ':' ∉ line) :
    headerField (removeTrailingCR line) = none := by
  apply headerField_of_notMem
  intro member
  unfold removeTrailingCR at member
  split at member
  · exact absent (List.mem_of_mem_dropLast member)
  · exact absent member

/-- Among pairs of a key and a value, the last value is that of the last line
with the key. -/
theorem lastValue_map (lines : List Text) (key : Text) :
    ignoreCase.lastValue key (lines.map headerPair) = lastHeader lines key := by
  unfold Comparison.lastValue lastHeader
  rw [List.filter_map, List.getLast?_map, Option.map_map]
  apply congrArg fun kept : List Text => kept.getLast?.map headerValue
  apply List.filter_congr
  intro line _
  exact decide_eq_decide.mpr Iff.rfl

/-! ## The loop -/

namespace HttpRequest

variable {request : HttpRequest} {pending left : List Text}
  {socket : SharedSocket} {line : Text}

theorem parseHeader_none (read : request.socket.readLine '\n' pending =
      { line := none, socket, pending := left }) :
    request.parseHeader pending =
      { succeeded := false, request := { request with socket },
        pending := left } := by
  rw [parseHeader]
  split
  next same =>
    rw [read] at same
    cases same
    rfl
  next same =>
    rw [read] at same
    cases same

/-- What one line does: an empty one ends the header, one with a colon sets a
header and any other is refused. -/
theorem parseHeader_some (read : request.socket.readLine '\n' pending =
      { line := some line, socket, pending := left }) :
    request.parseHeader pending =
      if isBlank line then
        { succeeded := true, request := { request with socket }, pending := left }
      else if ':' ∈ line then
        { request with
          socket
          headers := request.headers.assign (headerKey line)
            (headerValue line) }.parseHeader left
      else
        { succeeded := false, request := { request with socket },
          pending := left } := by
  rw [parseHeader]
  split
  next same =>
    rw [read] at same
    cases same
  next same =>
    rw [read] at same
    cases same
    by_cases blank : isBlank line = true
    · rw [if_pos blank, if_pos (show (removeTrailingCR line).isEmpty = true from blank)]
    rw [if_neg blank, if_neg (show ¬ (removeTrailingCR line).isEmpty = true from blank)]
    by_cases colon : ':' ∈ line
    · rw [if_pos colon, headerField_of_mem colon]
      rfl
    · rw [if_neg colon, headerField_of_not_colon colon]

/-- The lines that are available decide everything: by induction on them. -/
theorem parseHeader_lines {lines : List Text}
    (available : request.socket.availableLines '\n' pending = lines) :
    ((request.parseHeader pending).succeeded = true ↔
        (∃ line ∈ lines, isBlank line = true) ∧
          ∀ line ∈ headerLines lines, ':' ∈ line) ∧
      ((request.parseHeader pending).succeeded = true →
        (request.parseHeader pending).request.socket.availableLines '\n'
            (request.parseHeader pending).pending = behindHeader lines ∧
          (request.parseHeader pending).request.headers =
            request.headers.assignAll ((headerLines lines).map headerPair)) := by
  induction lines generalizing request pending with
  | nil =>
      have first := SharedSocket.readLine_available '\n' request.socket pending
      cases read : request.socket.readLine '\n' pending with
      | mk line socket left =>
          rw [read] at first
          cases line with
          | none => simp [parseHeader_none read]
          | some line => simp [available] at first
  | cons head lines ih =>
      have first := SharedSocket.readLine_available '\n' request.socket pending
      cases read : request.socket.readLine '\n' pending with
      | mk line socket left =>
          rw [read] at first
          cases line with
          | none => simp [available] at first
          | some line =>
              rw [available] at first
              obtain ⟨rfl, rest⟩ := List.cons.inj first
              rw [parseHeader_some read]
              by_cases blank : isBlank head = true
              · simp [blank, headerLines, behindHeader, rest]
              by_cases colon : ':' ∈ head
              · have later := @ih
                  { request with
                    socket
                    headers := request.headers.assign (headerKey head)
                      (headerValue head) } left rest.symm
                simpa [blank, colon, headerLines, behindHeader,
                  headerPair, OrderedMap.assignAll_cons] using later
              · simp [blank, colon, headerLines]

/-- Lines with a colon that are read before a blank one set the headers. -/
theorem parseHeader_readsLines {headers : List Text} {blank : Text}
    (reads : ReadsLines '\n' request.socket pending (headers ++ [blank])
      socket left)
    (colons : ∀ line ∈ headers, ':' ∈ line) (ends : isBlank blank = true) :
    request.parseHeader pending =
      { succeeded := true
        request :=
          { request with
            socket
            headers := request.headers.assignAll (headers.map headerPair) }
        pending := left } := by
  induction headers generalizing request pending with
  | nil =>
      cases reads with
      | cons read later =>
          cases later
          rw [parseHeader_some read, if_pos ends]
          rfl
  | cons head headers ih =>
      cases reads with
      | @cons _ next _ _ middle _ _ _ read later =>
          have colon := colons head List.mem_cons_self
          have rest := @ih
            { request with
              socket := next
              headers := request.headers.assign (headerKey head)
                (headerValue head) } middle later
            fun line member => colons line (.tail _ member)
          have notBlank : ¬ isBlank head = true := by
            simp [not_isBlank_of_colon colon]
          rw [parseHeader_some read, if_neg notBlank, if_pos colon]
          exact rest

/-- A header is accepted exactly when a blank line is available and every line
before the first one has a colon.  Then the lines up to it are consumed, and a
key has the value of the last line with it. -/
theorem parseHeader_reads (socket : SharedSocket) (pending : List Text) :
    let lines := socket.availableLines '\n' pending
    let parsed := (HttpRequest.ofSocket socket).parseHeader pending
    (parsed.succeeded = true ↔
        (∃ line ∈ lines, isBlank line = true) ∧
          ∀ line ∈ headerLines lines, ':' ∈ line) ∧
      (parsed.succeeded = true →
        parsed.request.socket.availableLines '\n' parsed.pending =
            behindHeader lines ∧
          ∀ key defaultValue, parsed.request.getHeader key defaultValue =
            (lastHeader (headerLines lines) key).getD defaultValue) := by
  intro lines parsed
  obtain ⟨accepted, consumed⟩ :=
    @parseHeader_lines (HttpRequest.ofSocket socket) pending lines rfl
  constructor
  · exact accepted
  · intro succeeded
    obtain ⟨behind, headers⟩ := consumed succeeded
    constructor
    · exact behind
    · intro key defaultValue
      have looked : parsed.request.headers.find key =
          lastHeader (headerLines lines) key := by
        rw [headers, OrderedMap.find_assignAll, lastValue_map]
        exact Option.or_none
      rw [HttpMessage.getHeader, looked]

end HttpRequest

end Concurrente.WebServer.Http
