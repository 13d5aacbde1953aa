import Concurrente.WebServer.Http.HeaderParsing

/-!
# Request bodies

`parseBody` reads from the descriptor, but the header was read from a stream
that may have received more than the header.  These characters stay in the
stream and are missing from the body.
-/

namespace Concurrente.WebServer.Http

open Library

/-! ## What is expected of the code -/

/-- A request with a body, as a client sends it. -/
structure RequestMessage where
  method : Text
  uri : Text
  httpVersion : Text
  ending : Text
  headers : List Text
  blank : Text
  contentLength : Text
  body : Text
  words : ∀ word ∈ [method, uri, httpVersion],
    word ≠ [] ∧ ∀ c ∈ word, isSpace c = false ∧ c ≠ '\x00'
  endingBlank : ∀ c ∈ ending, isSpace c = true ∧ c ≠ '\n'
  plain : ∀ line ∈ blank :: headers, '\n' ∉ line ∧ '\x00' ∉ line
  colons : ∀ line ∈ headers, ':' ∈ line
  ends : isBlank blank = true
  announced : lastHeader headers "Content-Length".toList = some contentLength
  digits : contentLength ≠ [] ∧ ∀ c ∈ contentLength, c.isDigit = true
  length : Nat.ofDigitChars 10 contentLength 0 = body.length
  text : '\x00' ∉ body

namespace RequestMessage

def requestLine (message : RequestMessage) : Text :=
  message.method ++ ' ' :: (message.uri ++
    ' ' :: (message.httpVersion ++ message.ending))

/-- The lines before the body. -/
def lines (message : RequestMessage) : List Text :=
  message.requestLine :: (message.headers ++ [message.blank])

end RequestMessage

/-- What can still be read from the connection of a request. -/
def Parsed.unread (parsed : Parsed) : Text :=
  parsed.request.socket.input.buffer ++ parsed.pending.flatten

/-- A message was parsed as it was sent, and what follows it is still there. -/
structure Parsed.TakesBody (parsed : Parsed) (message : RequestMessage)
    (rest : Text) : Prop where
  succeeded : parsed.succeeded = true
  body : parsed.request.body = message.body
  unread : parsed.unread = rest

/-! ## Request line and headers -/

theorem extractWord_of_word {word : Text} (some : word ≠ [])
    (solid : ∀ c ∈ word, isSpace c = false) {rest : Text}
    (ended : ∀ c ∈ rest.head?, isSpace c = true) :
    extractWord (word ++ rest) = .some (word, rest) := by
  have start : (word ++ rest).dropWhile isSpace = word ++ rest := by
    cases word with
    | nil => exact (some rfl).elim
    | cons first others =>
        exact List.dropWhile_cons_of_neg (by simp [solid first])
  have inside : ∀ c ∈ word, (!isSpace c) = true := by
    intro c member
    simp [solid c member]
  have outside : rest.takeWhile (fun c => !isSpace c) = [] ∧
      rest.dropWhile (fun c => !isSpace c) = rest := by
    cases rest with
    | nil => simp
    | cons c rest => simp [ended c (by simp)]
  have nonempty : (word ++ rest).isEmpty = false := by simp [some]
  rw [extractWord, start]
  simp only [nonempty, Bool.false_eq_true, if_false]
  rw [List.takeWhile_append_of_pos inside, List.dropWhile_append_of_pos inside,
    outside.1, outside.2, List.append_nil]

theorem extractWord_space (text : Text) :
    extractWord (' ' :: text) = extractWord text := by
  rw [extractWord, extractWord,
    List.dropWhile_cons_of_pos (show isSpace ' ' = true from rfl)]

namespace RequestMessage

variable (message : RequestMessage)

/-- The request once its header is parsed. -/
def parsedHeader (socket : SharedSocket) : HttpRequest :=
  { HttpMessage.ofSocket socket with
    httpVersion := message.httpVersion
    headers := (OrderedMap.empty ignoreCase).assignAll
      (message.headers.map headerPair)
    method := message.method
    uri := message.uri }

theorem parseRequestLine_eq {socket next : SharedSocket}
    {pending left : List Text}
    (read : socket.readLine '\n' pending =
      { line := some message.requestLine, socket := next, pending := left }) :
    (HttpRequest.ofSocket socket).parseRequestLine pending =
      { succeeded := true
        request :=
          { HttpRequest.ofSocket next with
            httpVersion := message.httpVersion
            method := message.method
            uri := message.uri }
        pending := left } := by
  obtain ⟨someMethod, methodSolid⟩ := message.words message.method (by simp)
  obtain ⟨someUri, uriSolid⟩ := message.words message.uri (by simp)
  obtain ⟨someVersion, versionSolid⟩ := message.words message.httpVersion (by simp)
  have ended : ∀ c ∈ message.ending.head?, isSpace c = true := by
    intro c member
    exact (message.endingBlank c (List.mem_of_head? member)).1
  have first : extractWord message.requestLine =
      some (message.method, ' ' :: (message.uri ++
        ' ' :: (message.httpVersion ++ message.ending))) :=
    extractWord_of_word someMethod (fun c member => (methodSolid c member).1)
      (by simp [isSpace])
  have second : extractWord (' ' :: (message.uri ++
        ' ' :: (message.httpVersion ++ message.ending))) =
      some (message.uri, ' ' :: (message.httpVersion ++ message.ending)) := by
    rw [extractWord_space]
    exact extractWord_of_word someUri (fun c member => (uriSolid c member).1)
      (by simp [isSpace])
  have third : extractWord (' ' :: (message.httpVersion ++ message.ending)) =
      some (message.httpVersion, message.ending) := by
    rw [extractWord_space]
    exact extractWord_of_word someVersion
      (fun c member => (versionSolid c member).1) ended
  have start : (HttpRequest.ofSocket socket).socket = socket := rfl
  simp only [HttpRequest.parseRequestLine, start, read, first, second, third]
  rfl

/-- Once the lines before the body are read, only the body is left. -/
theorem parse_eq {socket last : SharedSocket} {pending later : List Text}
    (reads : ReadsLines '\n' socket pending message.lines last later)
    (behind : Text) :
    (HttpRequest.ofSocket socket).parse behind pending =
      (message.parsedHeader last).parseBody behind later := by
  cases reads with
  | cons read others =>
      have header := @HttpRequest.parseHeader_readsLines
        { HttpRequest.ofSocket _ with
          httpVersion := message.httpVersion
          method := message.method
          uri := message.uri } _ _ _ _ _ others message.colons message.ends
      rw [HttpRequest.parse, message.parseRequestLine_eq read]
      simp only [if_true, header]
      rfl

/-! ## Body -/

theorem getHeader_parsedHeader (socket : SharedSocket) :
    (message.parsedHeader socket).getHeader "Content-Length".toList [] =
      message.contentLength := by
  have looked : (message.parsedHeader socket).headers.find
      "Content-Length".toList = some message.contentLength := by
    rw [parsedHeader, OrderedMap.find_assignAll, lastValue_map,
      message.announced]
    rfl
  rw [HttpMessage.getHeader, looked]
  rfl

theorem stoull_contentLength :
    stoull message.contentLength =
      if message.body.length < 2 ^ 64 then
        .ok (UInt64.ofNat message.body.length)
      else .error (.outOfRange "stoull".toList) := by
  have scanned := scanNumeral_digits message.digits.1 message.digits.2
  rw [message.length] at scanned
  simp only [stoull, scanned]
  rfl

/-- A body that is too long for a buffer is refused. -/
theorem parseBody_long (long : 2 ^ 63 ≤ message.body.length)
    (socket : SharedSocket) (behind : Text) (later : List Text) :
    ((message.parsedHeader socket).parseBody behind later).succeeded = false := by
  have some : 0 < message.contentLength.length :=
    List.length_pos_iff.mpr message.digits.1
  rw [HttpRequest.parseBody]
  simp only [getHeader_parsedHeader, some, if_true, stoull_contentLength]
  by_cases fits : message.body.length < 2 ^ 64
  · have size : (UInt64.ofNat message.body.length).toNat = message.body.length :=
      UInt64.toNat_ofNat_of_lt fits
    simp only [fits, if_true, size, long]
  · simp only [fits, if_false]

/-- A body of any other size is read from the descriptor. -/
theorem parseBody_small (small : message.body.length < 2 ^ 63)
    (socket : SharedSocket) (behind : Text) (later : List Text) :
    (message.parsedHeader socket).parseBody behind later =
      let read := socket.read message.body.length [] later
      let request := { message.parsedHeader socket with socket := read.socket }
      if read.result ≤ 0 then
        { succeeded := false, request, pending := read.pending }
      else
        { succeeded := true
          request :=
            { request with body := HttpRequest.bufferText read.buffer behind }
          pending := read.pending } := by
  have some : 0 < message.contentLength.length :=
    List.length_pos_iff.mpr message.digits.1
  have fits : message.body.length < 2 ^ 64 := by omega
  have size : (UInt64.ofNat message.body.length).toNat = message.body.length :=
    UInt64.toNat_ofNat_of_lt fits
  have notLong : ¬ 2 ^ 63 ≤ message.body.length := by omega
  rw [HttpRequest.parseBody]
  simp only [getHeader_parsedHeader, some, if_true, stoull_contentLength, fits,
    size, notLong, if_false]
  rfl

/-- The body is taken from what has not been received yet. -/
theorem parseBody_takes_iff {socket : SharedSocket}
    (openSocket : 0 ≤ socket.socketFileDescriptor) (behind rest : Text)
    (later : List Text) :
    ((message.parsedHeader socket).parseBody behind later).TakesBody
        message rest ↔
      (0 < message.body.length ∧ message.body.length < 2 ^ 63) ∧
        message.body.length ≤ later.flatten.length ∧
        HttpRequest.bufferText (later.flatten.take message.body.length) behind =
          message.body ∧
        socket.input.buffer ++ later.flatten.drop message.body.length =
          rest := by
  by_cases small : message.body.length < 2 ^ 63
  · rw [message.parseBody_small small]
    by_cases enough : message.body.length ≤ later.flatten.length
    · obtain ⟨pending, result, left⟩ := @SharedSocket.read_of_enough socket
        openSocket message.body.length [] later (Nat.zero_le _)
        (by simpa using enough)
      simp only [List.length_nil, Nat.sub_zero, List.nil_append] at result left
      rw [result]
      by_cases empty : message.body.length = 0
      · constructor
        · intro takes
          have succeeded := takes.succeeded
          simp [empty] at succeeded
        · intro expected
          omega
      · have positive : ¬ (message.body.length : Int) ≤ 0 := by omega
        simp only [positive, if_false]
        constructor
        · intro takes
          exact ⟨⟨by omega, small⟩, enough, takes.body,
            by rw [← left]; exact takes.unread⟩
        · intro expected
          obtain ⟨-, -, body, unread⟩ := expected
          exact ⟨rfl, body, by rw [← left] at unread; exact unread⟩
    · have none := @SharedSocket.read_of_short socket openSocket
        message.body.length [] later (by simpa using enough)
      simp only [none, le_refl, if_true]
      constructor
      · intro takes
        cases takes.succeeded
      · intro expected
        exact (enough expected.2.1).elim
  · have refused := message.parseBody_long (by omega) socket behind later
    constructor
    · intro takes
      rw [takes.succeeded] at refused
      cases refused
    · intro expected
      exact (small expected.1.2).elim

end RequestMessage

/-! ## Where the body arrives -/

/-- Texts that can be swapped are made of the same characters. -/
theorem subset_of_swap {extra body : Text} (some : body ≠ [])
    (swap : extra ++ body = body ++ extra) : extra ⊆ body := by
  by_cases short : extra.length ≤ body.length
  · have inside : extra <+: body ++ extra := swap ▸ List.prefix_append _ _
    have front := List.prefix_of_prefix_length_le inside
      (List.prefix_append body extra) short
    exact front.subset
  · have inside : body <+: extra ++ body := swap ▸ List.prefix_append _ _
    obtain ⟨left, shape⟩ := List.prefix_of_prefix_length_le inside
      (List.prefix_append extra body) (by omega)
    have smaller : left ++ body = body ++ left := by
      rw [← shape, List.append_assoc] at swap
      exact List.append_cancel_left swap
    have shorter : left.length < extra.length := by
      have positive := List.length_pos_iff.mpr some
      rw [← shape, List.length_append]
      omega
    have later := subset_of_swap some smaller
    rw [← shape]
    exact List.append_subset.mpr ⟨List.Subset.refl _, later⟩
termination_by extra.length

/-- A full buffer gives back a body when it holds the body and the memory
behind it starts with a NUL. -/
theorem bufferText_eq_iff {data body behind : Text}
    (lengths : data.length = body.length) (text : '\x00' ∉ body) :
    HttpRequest.bufferText data behind = body ↔
      data = body ∧ cString behind = [] := by
  unfold HttpRequest.bufferText
  constructor
  · intro taken
    have plain : '\x00' ∉ data := by
      intro member
      -- the text would end inside the buffer
      obtain ⟨front, tail, split, absent⟩ := List.eq_append_cons_of_mem member
      rw [split, List.append_assoc, cString_append absent] at taken
      have cut : cString ('\x00' :: tail ++ behind) = [] := rfl
      rw [cut, List.append_nil] at taken
      have shorter := congrArg List.length split
      rw [lengths, List.length_append, List.length_cons, taken] at shorter
      omega
    rw [cString_append plain] at taken
    exact List.append_inj (taken.trans (List.append_nil body).symm) lengths
  · intro expected
    obtain ⟨rfl, noMore⟩ := expected
    rw [cString_append text, noMore, List.append_nil]

/-- The characters in the stream are skipped, so the bytes taken are those of
the body only when it makes no difference. -/
theorem takes_iff_swap {extra left body rest behind : Text} (some : body ≠ [])
    (text : '\x00' ∉ body) (bytes : extra ++ left = body ++ rest) :
    (body.length ≤ left.length ∧
        HttpRequest.bufferText (left.take body.length) behind = body ∧
        cString extra ++ left.drop body.length = rest) ↔
      cString behind = [] ∧ extra <+: rest ∧
        extra ++ body = body ++ extra := by
  constructor
  · intro taken
    obtain ⟨enough, taken, kept⟩ := taken
    have lengths : (left.take body.length).length = body.length := by
      rw [List.length_take]
      omega
    obtain ⟨front, noMore⟩ := (bufferText_eq_iff lengths text).mp taken
    have shape : left = body ++ left.drop body.length := by
      conv_lhs => rw [← List.take_append_drop body.length left, front]
    generalize left.drop body.length = later at kept shape
    subst shape kept
    have sizes := congrArg List.length bytes
    simp only [List.length_append] at sizes
    have same : (cString extra).length = extra.length := by omega
    have whole : cString extra = extra :=
      (List.takeWhile_prefix _).eq_of_length same
    rw [whole, ← List.append_assoc, ← List.append_assoc] at bytes
    rw [whole]
    exact ⟨noMore, List.prefix_append _ _, List.append_cancel_right bytes⟩
  · intro expected
    obtain ⟨noMore, ⟨later, rfl⟩, swap⟩ := expected
    have shape : left = body ++ later := by
      apply @List.append_cancel_left _ extra
      rw [bytes, ← List.append_assoc, ← swap, List.append_assoc]
    have plain : '\x00' ∉ extra := fun member =>
      text (subset_of_swap some swap member)
    subst shape
    refine ⟨?_, ?_, ?_⟩
    · rw [List.length_append]
      omega
    · rw [List.take_left]
      exact (bufferText_eq_iff rfl text).mpr ⟨rfl, noMore⟩
    · rw [cString_of_notMem plain, List.drop_left]

namespace RequestMessage

theorem whole_lines (message : RequestMessage) :
    ∀ line ∈ message.lines, '\n' ∉ line ∧ '\x00' ∉ line := by
  have solid : ∀ c ∈ message.requestLine, c ≠ '\n' ∧ c ≠ '\x00' := by
    intro c member
    have word : (∃ word ∈ [message.method, message.uri, message.httpVersion],
          c ∈ word) ∨ c = ' ' ∨ c ∈ message.ending := by
      simp only [requestLine, List.mem_append, List.mem_cons] at member
      simp only [List.mem_cons, List.not_mem_nil, or_false, exists_eq_or_imp,
        exists_eq_left]
      tauto
    rcases word with ⟨word, inside, found⟩ | rfl | found
    · obtain ⟨-, solid⟩ := message.words word inside
      obtain ⟨notSpace, notNul⟩ := solid c found
      constructor
      · rintro rfl
        cases notSpace
      · exact notNul
    · decide
    · obtain ⟨space, notEnd⟩ := message.endingBlank c found
      constructor
      · exact notEnd
      · rintro rfl
        cases space
  intro line member
  rcases List.mem_cons.mp member with rfl | later
  · constructor
    · intro inside
      exact (solid _ inside).1 rfl
    · intro inside
      exact (solid _ inside).2 rfl
  · apply message.plain
    rcases List.mem_append.mp later with header | blank
    · exact List.mem_cons_of_mem _ header
    · rw [List.mem_singleton.mp blank]
      exact List.mem_cons_self

/-- When the lines before the body arrive whole, only the body is left to be
read, and the stream holds what arrived with them. -/
theorem parse_delivered (message : RequestMessage) {socket : SharedSocket}
    (openSocket : 0 ≤ socket.socketFileDescriptor)
    {arrived extra : Text} {pending later : List Text}
    (stream : socket.input = .ofText (cString arrived))
    (delivered : Delivers '\n' arrived pending message.lines extra later)
    (behind : Text) :
    (HttpRequest.ofSocket socket).parse behind pending =
      (message.parsedHeader
        { socket with input := .ofText (cString extra) }).parseBody
          behind later := by
  have reads := delivered.readsLines (by decide)
    (fun line member => (message.whole_lines line member).1)
    (fun line member => (message.whole_lines line member).2) openSocket
  rw [← stream] at reads
  exact message.parse_eq reads behind

/-- A request with a body of two characters. -/
def greeting : RequestMessage where
  method := "POST".toList
  uri := "/".toList
  httpVersion := "HTTP/1.1".toList
  ending := ['\r']
  headers := ["Content-Length: 2\r".toList]
  blank := ['\r']
  contentLength := ['2']
  body := "hi".toList
  words := by simp [isSpace]
  endingBlank := by simp [isSpace]
  plain := by simp
  colons := by simp
  ends := by decide
  announced := by decide
  digits := by simp
  length := by decide
  text := by simp

/-- When the lines before the body arrive whole, the body is parsed as it was
sent exactly when it has at least one byte and fewer than `2 ^ 63`, the memory
behind the buffer starts with a NUL, and what arrived with the last line makes
no difference: it also comes next behind the body, and the two can be
swapped. -/
theorem parse_takes_iff (message : RequestMessage) {socket : SharedSocket}
    (openSocket : 0 ≤ socket.socketFileDescriptor)
    {arrived extra rest : Text} {pending later : List Text}
    (stream : socket.input = .ofText (cString arrived))
    (delivered : Delivers '\n' arrived pending message.lines extra later)
    (bytes : extra ++ later.flatten = message.body ++ rest) (behind : Text) :
    ((HttpRequest.ofSocket socket).parse behind pending).TakesBody
        message rest ↔
      (0 < message.body.length ∧ message.body.length < 2 ^ 63) ∧
        cString behind = [] ∧ extra <+: rest ∧
          extra ++ message.body = message.body ++ extra := by
  rw [message.parse_delivered openSocket stream delivered,
    parseBody_takes_iff message (by exact openSocket)]
  apply and_congr_right
  intro bounds
  exact takes_iff_swap (List.length_pos_iff.mp bounds.1) message.text bytes

/-- The body comes in a chunk of its own. -/
theorem parse_takes_iff_sample :
    ((HttpRequest.ofSocket (.connected 3)).parse []
      [terminated '\n' greeting.lines, "hi".toList]).TakesBody greeting [] := by
  have lines : greeting.lines ≠ [] := List.cons_ne_nil _ _
  have delivered : Delivers '\n' []
      [terminated '\n' greeting.lines, "hi".toList] greeting.lines []
      ["hi".toList] := by
    have chunk := @Delivers.final '\n' greeting.lines [] ["hi".toList] lines
    rw [List.append_nil] at chunk
    exact @Delivers.received '\n' [] _ _ _ _ _ (by decide) (by decide) chunk
  exact (parse_takes_iff greeting (by decide) rfl delivered rfl []).mpr
    ⟨by decide, rfl, List.prefix_rfl, rfl⟩

/-- The body comes in one chunk with the lines before it, and parsing fails. -/
theorem parse_body_behind_header :
    Delivers '\n' [] [terminated '\n' greeting.lines ++ "hi".toList]
        greeting.lines "hi".toList [] ∧
      ((HttpRequest.ofSocket (.connected 3)).parse []
        [terminated '\n' greeting.lines ++ "hi".toList]).succeeded = false := by
  have lines : greeting.lines ≠ [] := List.cons_ne_nil _ _
  have delivered : Delivers '\n' []
      [terminated '\n' greeting.lines ++ "hi".toList] greeting.lines
      "hi".toList [] :=
    @Delivers.received '\n' [] _ _ _ _ _ (by decide) (by decide) (.final lines)
  constructor
  · exact delivered
  · rw [greeting.parse_delivered (by decide) rfl delivered]
    rw [HttpRequest.parseBody]
    simp only [getHeader_parsedHeader, stoull_contentLength]
    rfl

end RequestMessage

end Concurrente.WebServer.Http
