import Concurrente.WebServer.Http.HeaderParsing
import Concurrente.WebServer.Http.HttpResponse

/-!
# Reading a response back

The header block of a response is read with `parseHeader`.  Headers that were
set come back as they are, but the type of content that `sendBodyMetadata`
guesses is written without its key, which is not a header line.
-/

namespace Concurrente.WebServer.Http

open Library

/-! ## What is expected of the code -/

/-- Keys without colons, and neither they nor the values with line feeds. -/
def Headers.Plain (headers : Headers) : Prop :=
  ∀ header ∈ headers.entries,
    ':' ∉ header.1 ∧ '\n' ∉ header.1 ∧ '\n' ∉ header.2

/-- The header block is read from a stream that holds a text. -/
def readBlock (reader : SharedSocket) (pending : List Text) (text : Text) :
    Parsed :=
  (HttpRequest.ofSocket { reader with input := .ofText text }).parseHeader
    pending

/-- What was read is what a response says. -/
structure Parsed.Restores (parsed : Parsed) (response : HttpResponse) :
    Prop where
  accepted : parsed.succeeded = true
  headers : ∀ key value, response.headers.find key = some value →
    parsed.request.headers.find key = some value
  contentType : (response.headers.find "Content-Type".toList).isSome = true ∨
      response.guessContentType ≠ [] →
    (parsed.request.headers.find "Content-Type".toList).isSome = true
  contentLength :
    parsed.request.getHeader "Content-Length".toList [] =
      (response.headers.find "Content-Length".toList).getD
        (Nat.toDigits 10 response.getBodyLength)
  body : parsed.request.socket.input.buffer = response.body

/-! ## Lines that were written -/

namespace HttpResponse

theorem headerPair_headerLine {header : Text × Text} (key : ':' ∉ header.1) :
    headerPair (headerLine header ++ ['\r']) = header := by
  have shape : headerLine header ++ ['\r'] =
      header.1 ++ ':' :: (' ' :: (header.2 ++ ['\r'])) := by
    simp [headerLine]
  have restored : removeTrailingCR (' ' :: (header.2 ++ ['\r'])) =
      ' ' :: header.2 := by
    rw [removeTrailingCR, ← List.cons_append, List.getLast?_concat, if_pos rfl,
      List.dropLast_concat]
  have keyed : headerKey (headerLine header ++ ['\r']) = header.1 := by
    rw [headerKey, shape, takeWhile_line key]
  have valued : headerValue (headerLine header ++ ['\r']) = header.2 := by
    rw [headerValue, shape, dropWhile_line key, List.tail_cons, restored]
    rfl
  rw [headerPair, keyed, valued]

theorem colon_mem_headerLine (header : Text × Text) :
    ':' ∈ headerLine header ++ ['\r'] := by
  simp [headerLine]

variable {response : HttpResponse}

/-- The headers among the written lines. -/
def writtenHeaders (response : HttpResponse) : List (Text × Text) :=
  response.headers.entries ++ response.contentLengthHeaders

theorem mem_writtenLines {line : Text} (member : line ∈ response.writtenLines) :
    line = response.guessContentType ∨
      ∃ header ∈ response.writtenHeaders, line = headerLine header := by
  rcases List.mem_append.mp member with front | made
  · rcases List.mem_append.mp front with own | guess
    · obtain ⟨header, inside, rfl⟩ := List.mem_map.mp own
      exact .inr ⟨header, List.mem_append_left _ inside, rfl⟩
    · unfold contentTypeLines at guess
      split at guess
      · exact .inl (List.mem_singleton.mp guess)
      · cases guess
  · obtain ⟨header, inside, rfl⟩ := List.mem_map.mp made
    exact .inr ⟨header, List.mem_append_right _ inside, rfl⟩

section Written

variable (plain : response.headers.Plain)

include plain

theorem plain_writtenHeaders :
    ∀ header ∈ response.writtenHeaders,
      ':' ∉ header.1 ∧ '\n' ∉ headerLine header := by
  intro header member
  rcases List.mem_append.mp member with own | made
  · obtain ⟨colon, keyEnd, valueEnd⟩ := plain header own
    constructor
    · exact colon
    · simp [headerLine, keyEnd, valueEnd]
  · unfold contentLengthHeaders at made
    split at made
    · rw [List.mem_singleton.mp made]
      have key : ':' ∉ "Content-Length".toList ∧
          '\n' ∉ "Content-Length".toList := by decide
      constructor
      · exact key.1
      · intro inside
        rcases List.mem_append.mp inside with front | rest
        · exact key.2 front
        · simp only [List.mem_cons, Char.reduceEq, false_or] at rest
          cases isDigit_of_mem_toDigits rest
    · cases made

theorem plain_writtenLines :
    ∀ line ∈ (response.writtenLines ++ [[]]).map (· ++ ['\r']), '\n' ∉ line := by
  intro line member
  obtain ⟨text, inside, rfl⟩ := List.mem_map.mp member
  have plainText : '\n' ∉ text := by
    rcases List.mem_append.mp inside with written | last
    · rcases mem_writtenLines written with rfl | ⟨header, found, rfl⟩
      · exact response.plain_guessContentType.2
      · exact (plain_writtenHeaders plain header found).2
    · rw [List.mem_singleton.mp last]
      exact List.not_mem_nil
  simp [plainText]

/-- When no type of content is guessed, all that is written is read back. -/
theorem readBlock_block (typed : response.contentTypeLines = [])
    (reader : SharedSocket) (pending : List Text) :
    readBlock reader pending response.block =
      { succeeded := true
        request :=
          { HttpRequest.ofSocket { reader with input := .ofText response.body } with
            headers := (OrderedMap.empty ignoreCase).assignAll
              response.writtenHeaders }
        pending } := by
  let lines := response.writtenHeaders.map fun header =>
    headerLine header ++ ['\r']
  have shape : (response.writtenLines ++ [[]]).map (· ++ ['\r']) =
      lines ++ [['\r']] := by
    simp [lines, writtenLines, writtenHeaders, typed, Function.comp_def]
  have colons : ∀ line ∈ lines, ':' ∈ line := by
    intro line member
    obtain ⟨header, _, rfl⟩ := List.mem_map.mp member
    exact colon_mem_headerLine header
  have pairs : lines.map headerPair = response.writtenHeaders := by
    have same : ∀ header ∈ response.writtenHeaders,
        (headerPair ∘ fun header => headerLine header ++ ['\r']) header =
          id header := by
      intro header member
      exact headerPair_headerLine (plain_writtenHeaders plain header member).1
    rw [List.map_map, List.map_congr_left same, List.map_id]
  have text : response.block =
      terminated '\n' (lines ++ [['\r']]) ++ response.body := by
    rw [block, wire, shape]
  have reads := SharedSocket.readsLines_terminated (plain_writtenLines plain)
    reader response.body pending
  rw [shape, ← text] at reads
  have parsed := @HttpRequest.parseHeader_readsLines
    (HttpRequest.ofSocket { reader with input := .ofText response.block })
    pending pending _ lines ['\r'] reads colons rfl
  rw [pairs] at parsed
  exact parsed

theorem availableLines_block (reader : SharedSocket) (pending : List Text) :
    SharedSocket.availableLines { reader with input := .ofText response.block }
        '\n' pending =
      (response.writtenLines ++ [[]]).map (· ++ ['\r']) ++
        SharedSocket.availableLines
          { reader with input := .ofText response.body } '\n' pending := by
  rw [SharedSocket.availableLines, SharedSocket.availableLines,
    InputStream.lines_ofText, InputStream.lines_ofText, block, wire,
    streamLines_terminated (plain_writtenLines plain), List.append_assoc]

/-- A guessed type of content is a line without a colon. -/
theorem readBlock_refused (typed : response.contentTypeLines ≠ [])
    (reader : SharedSocket) (pending : List Text) :
    (readBlock reader pending response.block).succeeded = false := by
  have guessed : response.contentTypeLines = [response.guessContentType] ∧
      response.guessContentType ≠ [] := by
    unfold contentTypeLines at typed ⊢
    split
    next both => exact ⟨rfl, both.2⟩
    next none => exact (typed (if_neg none)).elim
  have available := availableLines_block plain reader pending
  have accepted := (@HttpRequest.parseHeader_lines
    (HttpRequest.ofSocket { reader with input := .ofText response.block })
    pending _ available).1
  rw [Bool.eq_false_iff]
  intro succeeded
  have colons := (accepted.mp succeeded).2
    (response.guessContentType ++ ['\r'])
  have notBlank : ∀ line ∈ (response.headers.entries.map headerLine).map
      (· ++ ['\r']) ++ [response.guessContentType ++ ['\r']],
      isBlank line = false := by
    intro line member
    rcases List.mem_append.mp member with own | guess
    · rw [List.map_map] at own
      obtain ⟨header, _, rfl⟩ := List.mem_map.mp own
      exact not_isBlank_of_colon (colon_mem_headerLine header)
    · rw [List.mem_singleton.mp guess]
      simp [isBlank, removeTrailingCR, guessed.2]
  have member : ':' ∈ response.guessContentType ++ ['\r'] := by
    apply colons
    rw [writtenLines, guessed.1]
    simp only [List.map_append, List.append_assoc, List.map_cons,
      List.cons_append]
    exact mem_headerLines notBlank _
  simp [response.plain_guessContentType.1] at member

end Written

/-! ## Headers that are read back -/

/-- A length that was made up is read back, the other headers as they were
set. -/
theorem find_writtenHeaders (response : HttpResponse) (key : Text) :
    ((OrderedMap.empty ignoreCase).assignAll response.writtenHeaders).find key =
      if response.getHeader "Content-Length".toList [] = [] ∧
          toLower "Content-Length".toList = toLower key then
        some (Nat.toDigits 10 response.getBodyLength)
      else response.headers.find key := by
  rw [OrderedMap.find_assignAll, writtenHeaders, Comparison.lastValue_append,
    ← OrderedMap.find_eq_lastValue, OrderedMap.find_empty, Option.or_none,
    contentLengthHeaders]
  by_cases measured : response.getHeader "Content-Length".toList [] = []
  · rw [if_pos measured, Comparison.lastValue_singleton]
    by_cases same : toLower "Content-Length".toList = toLower key
    · rw [if_pos (show ignoreCase.fold "Content-Length".toList =
        ignoreCase.fold key from same), if_pos ⟨measured, same⟩]
      rfl
    · rw [if_neg (show ¬ ignoreCase.fold "Content-Length".toList =
        ignoreCase.fold key from same), if_neg fun both => same both.2]
      rfl
  · rw [if_neg measured, if_neg fun both => measured both.1]
    rfl

theorem contentTypeLines_eq_nil_iff (response : HttpResponse) :
    response.contentTypeLines = [] ↔
      response.getHeader "Content-Type".toList [] ≠ [] ∨
        response.body = [] := by
  unfold contentTypeLines
  rw [← response.guessContentType_eq_nil_iff]
  by_cases typed : response.getHeader "Content-Type".toList [] = []
  · by_cases guessed : response.guessContentType = []
    · rw [if_neg fun both => both.2 guessed]
      exact iff_of_true rfl (.inr guessed)
    · rw [if_pos ⟨typed, guessed⟩]
      apply iff_of_false (List.cons_ne_nil _ _)
      rintro (set | empty)
      · exact set typed
      · exact guessed empty
  · rw [if_neg fun both => typed both.1]
    exact iff_of_true rfl (.inl typed)

theorem find_writtenHeaders_of_set {response : HttpResponse}
    (notBlank : response.headers.find "Content-Length".toList ≠ some [])
    {key value : Text} (found : response.headers.find key = some value) :
    ((OrderedMap.empty ignoreCase).assignAll response.writtenHeaders).find key =
      some value := by
  rw [find_writtenHeaders, if_neg]
  · exact found
  · rintro ⟨empty, same⟩
    have absent :=
      ((HttpMessage.getHeader_eq_nil_iff _ _).mp empty).resolve_right notBlank
    rw [OrderedMap.find_congr _ same, found] at absent
    cases absent

theorem contentType_set {response : HttpResponse}
    (typed : response.contentTypeLines = [])
    (known : (response.headers.find "Content-Type".toList).isSome = true ∨
      response.guessContentType ≠ []) :
    (response.headers.find "Content-Type".toList).isSome = true := by
  rcases known with set | guessed
  · exact set
  rcases response.contentTypeLines_eq_nil_iff.mp typed with set | empty
  · rw [Option.isSome_iff_ne_none]
    intro none
    exact set ((HttpMessage.getHeader_eq_nil_iff _ _).mpr (.inl none))
  · exact (guessed (response.guessContentType_eq_nil_iff.mpr empty)).elim

theorem restores_iff {response : HttpResponse} (plain : response.headers.Plain)
    (reader : SharedSocket) (pending : List Text) :
    (readBlock reader pending response.block).Restores response ↔
      (response.getHeader "Content-Type".toList [] ≠ [] ∨
          response.body = []) ∧
        response.headers.find "Content-Length".toList ≠ some [] := by
  rw [← contentTypeLines_eq_nil_iff]
  constructor
  · intro restores
    have typed : response.contentTypeLines = [] := by
      by_contra guessed
      have refused := readBlock_refused plain guessed reader pending
      rw [restores.accepted] at refused
      cases refused
    refine ⟨typed, fun blank => ?_⟩
    -- an empty length is replaced by that of the body
    have kept := restores.headers _ _ blank
    have measured := (HttpMessage.getHeader_eq_nil_iff _ _).mpr (.inr blank)
    rw [readBlock_block plain typed, find_writtenHeaders,
      if_pos ⟨measured, rfl⟩] at kept
    have digits := Option.some.inj kept
    simp at digits
  · rintro ⟨typed, notBlank⟩
    rw [readBlock_block plain typed]
    constructor
    · rfl
    · intro key value found
      exact find_writtenHeaders_of_set notBlank found
    · intro known
      obtain ⟨value, found⟩ := Option.isSome_iff_exists.mp
        (contentType_set typed known)
      exact Option.isSome_iff_exists.mpr
        ⟨value, find_writtenHeaders_of_set notBlank found⟩
    · rw [HttpMessage.getHeader]
      dsimp only
      cases found : response.headers.find "Content-Length".toList with
      | none =>
          have measured := (HttpMessage.getHeader_eq_nil_iff _ _).mpr (.inl found)
          rw [find_writtenHeaders, if_pos ⟨measured, rfl⟩]
          rfl
      | some value =>
          rw [find_writtenHeaders_of_set notBlank found]
          rfl
    · rfl

theorem transmitted_send {response : HttpResponse} {outcomes : List SendOutcome}
    (openSocket : 0 ≤ response.socket.socketFileDescriptor)
    (accepting : ∀ outcome ∈ outcomes, ∃ more, outcome = .accepted more) :
    (response.send outcomes).2.socket.transmitted =
      response.socket.transmitted ++ response.socket.output ++
        (response.buildStatusLine ++ HttpMessage.lineSeparator ++
          response.block) := by
  rw [send_eq]
  dsimp only
  rw [SharedSocket.transmitted_send,
    SharedSocket.transmitted_write (by exact openSocket),
    SharedSocket.acceptedCount_of_acceptsAll
      (SharedSocket.acceptsAll_of_accepting accepting _),
    List.take_length]
  exact (List.append_assoc _ _ _).symm

/-- What `send` writes is a status line and a header block from which the
response is read back, exactly when no type of content has to be guessed and
the length was not set to an empty text.  The status line is one line when the
version and the reason phrase are. -/
theorem send_restores_iff {response : HttpResponse}
    (plain : response.headers.Plain) {outcomes : List SendOutcome}
    (openSocket : 0 ≤ response.socket.socketFileDescriptor)
    (accepting : ∀ outcome ∈ outcomes, ∃ more, outcome = .accepted more)
    (reader : SharedSocket) (pending : List Text) :
    ((∃ text, (response.send outcomes).2.socket.transmitted =
        response.socket.transmitted ++ response.socket.output ++
          (response.buildStatusLine ++ HttpMessage.lineSeparator ++ text) ∧
        (readBlock reader pending text).Restores response) ↔
      (response.getHeader "Content-Type".toList [] ≠ [] ∨
          response.body = []) ∧
        response.headers.find "Content-Length".toList ≠ some []) ∧
      ('\n' ∉ response.httpVersion → '\n' ∉ response.reasonPhrase →
        '\n' ∉ response.buildStatusLine) := by
  refine ⟨?_, notMem_buildStatusLine⟩
  rw [← restores_iff plain reader pending, transmitted_send openSocket accepting]
  constructor
  · rintro ⟨text, same, restores⟩
    have block : response.block = text :=
      List.append_cancel_left (List.append_cancel_left same)
    rw [block]
    exact restores
  · intro restores
    exact ⟨response.block, rfl, restores⟩

/-- A page with some headers. -/
def page (headers : Headers) : HttpResponse :=
  { socket := .connected 3
    httpVersion := "HTTP/1.1".toList
    headers
    body := "<p>".toList
    statusCode := 200
    reasonPhrase := "OK".toList }

/-- A page whose type of content was set. -/
theorem send_restores_iff_sample :
    ∃ text, ((page ((OrderedMap.empty ignoreCase).assign
          "Content-Type".toList "text/html".toList)).send
            [.accepted 9]).2.socket.transmitted =
        "HTTP/1.1 200 OK\r\n".toList ++ text ∧
      (readBlock (.connected 4) [] text).Restores
        (page ((OrderedMap.empty ignoreCase).assign "Content-Type".toList
          "text/html".toList)) := by
  have restored := (@send_restores_iff
    (page ((OrderedMap.empty ignoreCase).assign "Content-Type".toList
      "text/html".toList))
    (by
      intro header member
      rw [List.mem_singleton.mp member]
      decide) [.accepted 9] (by decide)
    (by
      intro outcome member
      exact ⟨9, List.mem_singleton.mp member⟩) (.connected 4) []).1.mpr
    ⟨.inl (by decide), by decide⟩
  exact restored

/-- A page whose type of content is guessed: the guess is written as a line of
its own, and the header block is refused. -/
theorem send_guessed :
    ((page (.empty ignoreCase)).send []).2.socket.transmitted =
        "HTTP/1.1 200 OK\r\n".toList ++
          "text/html\r\nContent-Length: 3\r\n\r\n<p>".toList ∧
      (readBlock (.connected 4) []
        "text/html\r\nContent-Length: 3\r\n\r\n<p>".toList).succeeded =
          false := by
  constructor
  · decide
  · have refused := @readBlock_refused (page (.empty ignoreCase))
      (fun _ member => absurd member List.not_mem_nil) (by decide)
      (.connected 4) []
    exact refused

end HttpResponse

end Concurrente.WebServer.Http
