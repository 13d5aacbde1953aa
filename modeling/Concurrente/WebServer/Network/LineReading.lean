import Concurrente.Common.Lines
import Concurrente.WebServer.Network.Socket

/-!
# Lines and chunks

A peer sends a stream of bytes and the operating system delivers it in chunks.
`readLine` takes the end of a chunk for the end of a line, so the lines it
returns are those of the stream exactly when every chunk but the last one ends
with the separator.
-/

namespace Concurrente.WebServer

/-! ## The loop -/

namespace InputStream

/-- The lines a stream still holds. -/
def lines (stream : InputStream) (separator : Char) : List Text :=
  if stream.eof || stream.fail then []
  else streamLines separator stream.buffer

@[simp] theorem lines_ofText (text : Text) (separator : Char) :
    (ofText text).lines separator = streamLines separator text := rfl

/-- One call of `getline` takes the first line the stream holds. -/
theorem getline_lines (stream : InputStream) (separator : Char) :
    stream.lines separator =
      match stream.getline separator with
      | (some line, stream') => line :: stream'.lines separator
      | (none, _) => [] := by
  by_cases stopped : (stream.eof || stream.fail) = true
  · simp only [getline, lines, stopped, if_true]
  by_cases empty : stream.buffer = []
  · simp [getline, lines, stopped, empty]
  have ready : (stream.eof || stream.fail) = false := by simpa using stopped
  rcases line_cases separator stream.buffer with
    absent | ⟨line, rest, whole, shape⟩
  · have different := bne_of_notMem absent
    have taken := List.takeWhile_eq_self_iff.mpr different
    have dropped : stream.buffer.dropWhile (· != separator) = [] :=
      List.dropWhile_eq_nil_iff.mpr different
    simp [getline, lines, ready, empty, taken, dropped,
      streamLines_unterminated absent empty]
  · have taken : stream.buffer.takeWhile (· != separator) = line := by
      rw [shape]
      exact takeWhile_line whole rest
    have dropped : stream.buffer.dropWhile (· != separator) =
        separator :: rest := by
      rw [shape]
      exact dropWhile_line whole rest
    simp only [getline, ready, List.isEmpty_eq_false_iff.mpr empty, taken,
      dropped]
    simp [lines, ready, shape, streamLines_cons whole]

theorem length_getline {stream stream' : InputStream} {separator : Char}
    {line : Text} (read : stream.getline separator = (some line, stream')) :
    stream'.buffer.length < stream.buffer.length := by
  unfold getline at read
  split at read
  · cases read
  split at read
  · cases read
  next nonempty =>
    have positive : 0 < stream.buffer.length := by
      simpa [List.length_pos_iff] using nonempty
    cases left : stream.buffer.dropWhile (· != separator) with
    | nil =>
        rw [left] at read
        cases read
        exact positive
    | cons first rest =>
        have suffix : first :: rest <:+ stream.buffer :=
          left ▸ List.dropWhile_suffix _
        rw [left] at read
        cases read
        exact suffix.length_le

end InputStream

/-- A chunk `::recv` can deliver to `receive`: some bytes, fewer than the
buffer has, none of them a NUL. -/
structure Received (chunk : Text) : Prop where
  nonempty : chunk ≠ []
  fits : chunk.length < 65535
  plain : '\x00' ∉ chunk

namespace SharedSocket

/-- The lines that calls of `readLine` can return: those of the stream and,
unless the descriptor is closed, those of the chunks, each of them read as a
C string. -/
def availableLines (socket : SharedSocket) (separator : Char)
    (chunks : List Text) : List Text :=
  socket.input.lines separator ++
    if socket.socketFileDescriptor < 0 then []
    else chunks.flatMap fun chunk => streamLines separator (cString chunk)

/-- One call of `readLine` takes the first line available, and fails when
there is none. -/
theorem readLine_available (separator : Char) (socket : SharedSocket)
    (chunks : List Text) :
    match socket.readLine separator chunks with
    | { line := some line, socket := socket', pending } =>
        socket.availableLines separator chunks =
          line :: socket'.availableLines separator pending
    | { line := none, .. } => socket.availableLines separator chunks = [] := by
  induction chunks generalizing socket with
  | nil =>
      have first := socket.input.getline_lines separator
      rw [readLine]
      cases read : socket.input.getline separator with
      | mk line input =>
          rw [read] at first
          cases line with
          | some line => simp [availableLines, first]
          | none => simp [availableLines, first]
  | cons chunk chunks ih =>
      have first := socket.input.getline_lines separator
      rw [readLine]
      cases read : socket.input.getline separator with
      | mk line input =>
          rw [read] at first
          cases line with
          | some line => simp [availableLines, first]
          | none =>
              by_cases closed : socket.socketFileDescriptor < 0
              · simp [availableLines, first, closed]
              · have later := ih { socket with input := .ofText (cString chunk) }
                simp only [closed, if_false, first, availableLines,
                  List.nil_append, List.flatMap_cons,
                  InputStream.lines_ofText] at later ⊢
                exact later

/-- How many characters and chunks are left to read. -/
def unreadLength (socket : SharedSocket) (chunks : List Text) : Nat :=
  socket.input.buffer.length + (chunks.map fun chunk => chunk.length + 1).sum

/-- Where a line comes from: the stream, or one of the chunks after all those
before it were used up. -/
theorem readLine_some {separator : Char} {socket socket' : SharedSocket}
    {chunks pending : List Text} {line : Text}
    (read : socket.readLine separator chunks =
      { line := some line, socket := socket', pending }) :
    ∃ stream input, stream.getline separator = (some line, input) ∧
      socket' = { socket with input } ∧
      (stream = socket.input ∧ pending = chunks ∨
        ∃ chunk, stream = .ofText (cString chunk) ∧
          chunk :: pending <:+ chunks) := by
  induction chunks generalizing socket with
  | nil =>
      rw [readLine] at read
      split at read
      next extracted =>
        cases read
        exact ⟨_, _, extracted, rfl, .inl ⟨rfl, rfl⟩⟩
      next => cases read
  | cons chunk chunks ih =>
      rw [readLine] at read
      split at read
      next extracted =>
        cases read
        exact ⟨_, _, extracted, rfl, .inl ⟨rfl, rfl⟩⟩
      next =>
        split at read
        · cases read
        · obtain ⟨stream, input, extracted, rfl, source⟩ := ih read
          refine ⟨stream, input, extracted, rfl, .inr ?_⟩
          rcases source with ⟨rfl, rfl⟩ | ⟨later, rfl, suffix⟩
          · exact ⟨chunk, rfl, List.suffix_rfl⟩
          · exact ⟨later, rfl, suffix.trans (List.suffix_cons chunk chunks)⟩

theorem unreadLength_readLine {separator : Char} {socket socket' : SharedSocket}
    {chunks pending : List Text} {line : Text}
    (read : socket.readLine separator chunks =
      { line := some line, socket := socket', pending }) :
    socket'.unreadLength pending < socket.unreadLength chunks := by
  obtain ⟨stream, input, extracted, rfl, source⟩ := readLine_some read
  have shorter := InputStream.length_getline extracted
  rcases source with ⟨rfl, rfl⟩ | ⟨chunk, rfl, front, rfl⟩
  · exact Nat.add_lt_add_right shorter _
  · have bytes : (cString chunk).length ≤ chunk.length :=
      (List.takeWhile_prefix _).length_le
    simp only [unreadLength, InputStream.ofText, List.map_append, List.map_cons,
      List.sum_append, List.sum_cons] at shorter ⊢
    omega

theorem availableLines_received {separator : Char} {socket : SharedSocket}
    (openSocket : 0 ≤ socket.socketFileDescriptor) {chunks : List Text}
    (received : ∀ chunk ∈ chunks, Received chunk) :
    socket.availableLines separator chunks =
      socket.input.lines separator ++ chunks.flatMap (streamLines separator) := by
  have live : ¬ socket.socketFileDescriptor < 0 := by omega
  rw [availableLines, if_neg live]
  apply congrArg
  apply List.flatMap_congr
  intro chunk member
  rw [cString_of_notMem (received chunk member).plain]

theorem readLines_eq {separator : Char} (calls : Nat) (socket : SharedSocket)
    (chunks : List Text) :
    readLines separator calls socket chunks =
      (socket.availableLines separator chunks).take calls := by
  induction calls generalizing socket chunks with
  | zero => simp [readLines]
  | succ calls ih =>
      have first := readLine_available separator socket chunks
      rw [readLines]
      cases read : socket.readLine separator chunks with
      | mk line socket' pending =>
          rw [read] at first
          cases line with
          | some line =>
              rw [first, List.take_succ_cons]
              exact congrArg _ (ih socket' pending)
          | none =>
              rw [first]
              rfl

end SharedSocket

/-! ## Which cuts preserve the lines -/

theorem count_flatten_le (separator : Char) (chunks : List Text) :
    chunks.flatten.count separator ≤
      (chunks.flatMap (streamLines separator)).length := by
  induction chunks with
  | nil => simp
  | cons chunk chunks ih =>
      simp only [List.flatten_cons, List.count_append, List.flatMap_cons,
        List.length_append, length_streamLines]
      omega

theorem flatMap_streamLines_of_terminated {separator : Char}
    {chunks : List Text} (last : Text)
    (terminated : ∀ chunk ∈ chunks, chunk.getLast? = some separator) :
    streamLines separator (chunks.flatten ++ last) =
      chunks.flatMap (streamLines separator) ++ streamLines separator last := by
  induction chunks with
  | nil => simp
  | cons chunk chunks ih =>
      rw [List.flatten_cons, List.append_assoc,
        streamLines_append (terminated chunk List.mem_cons_self),
        ih fun other member => terminated other (.tail _ member),
        List.flatMap_cons, List.append_assoc]

theorem count_flatten_lt {separator : Char} {chunks : List Text}
    (received : ∀ chunk ∈ chunks, Received chunk) {broken : Text}
    (member : broken ∈ chunks) (cut : broken.getLast? ≠ some separator) :
    chunks.flatten.count separator <
      (chunks.flatMap (streamLines separator)).length := by
  induction chunks with
  | nil => cases member
  | cons chunk chunks ih =>
      simp only [List.flatten_cons, List.count_append, List.flatMap_cons,
        List.length_append, length_streamLines]
      rcases List.mem_cons.mp member with rfl | later
      · have nonempty := (received broken List.mem_cons_self).nonempty
        have others := count_flatten_le separator chunks
        simp only [nonempty, cut, or_self, if_false]
        omega
      · have others := ih (fun other member => received other (.tail _ member))
          later
        omega

/-- Cutting every chunk into lines gives the lines of the stream exactly when
no chunk but the last one breaks a line. -/
theorem flatMap_streamLines_iff {separator : Char} {chunks : List Text}
    (received : ∀ chunk ∈ chunks, Received chunk) :
    chunks.flatMap (streamLines separator) =
        streamLines separator chunks.flatten ↔
      ∀ chunk ∈ chunks.dropLast, chunk.getLast? = some separator := by
  rcases List.eq_nil_or_concat chunks with rfl | ⟨before, last, rfl⟩
  · simp
  rw [List.concat_eq_append, List.dropLast_concat, List.flatten_concat,
    List.flatMap_append, List.flatMap_singleton]
  constructor
  · intro same chunk member
    by_contra cut
    have more := count_flatten_lt
      (fun other inside => received other (by simp [inside])) member cut
    have lengths := congrArg List.length same
    have nonempty := (received last (by simp)).nonempty
    have ending : (before.flatten ++ last).getLast? = last.getLast? := by
      obtain ⟨final, found⟩ := List.getLast?_isSome.mpr nonempty
        |> Option.isSome_iff_exists.mp
      simp [List.getLast?_append, found]
    simp only [List.length_append, length_streamLines, List.count_append,
      ending, List.append_eq_nil_iff, nonempty, and_false, false_or] at lengths
    omega
  · intro terminated
    exact (flatMap_streamLines_of_terminated last terminated).symm

/-- Successive calls of `readLine` return the lines of the stream, however
many calls are made, if and only if every chunk but the last one ends with the
separator. -/
theorem SharedSocket.readLines_eq_streamLines_iff {separator : Char}
    {socket : SharedSocket} (openSocket : 0 ≤ socket.socketFileDescriptor)
    (fresh : socket.input = .ofText []) {chunks : List Text}
    (received : ∀ chunk ∈ chunks, Received chunk) :
    (∀ calls, readLines separator calls socket chunks =
        (streamLines separator chunks.flatten).take calls) ↔
      ∀ chunk ∈ chunks.dropLast, chunk.getLast? = some separator := by
  rw [← flatMap_streamLines_iff received]
  simp only [readLines_eq, availableLines_received openSocket received, fresh,
    InputStream.lines_ofText, streamLines_nil, List.nil_append]
  constructor
  · intro same
    have enough := same ((chunks.flatMap (streamLines separator)).length +
      (streamLines separator chunks.flatten).length)
    rwa [List.take_of_length_le (by omega), List.take_of_length_le (by omega)]
      at enough
  · intro same calls
    rw [same]

theorem SharedSocket.readLines_two_lines :
    readLines '\n' 5 (.connected 3) ["ab\n".toList, "c\nd\n".toList] =
      ["ab".toList, "c".toList, "d".toList] := by
  refine ((readLines_eq_streamLines_iff (by decide) rfl ?_).mpr
    (by decide) 5).trans (by decide +kernel)
  simp only [List.mem_cons, List.not_mem_nil, or_false, forall_eq_or_imp,
    forall_eq]
  exact ⟨⟨by decide, by decide, by decide⟩,
    ⟨by decide, by decide, by decide⟩⟩

/-- One line in two chunks is returned as two lines. -/
theorem SharedSocket.readLines_broken_line :
    (∀ chunk ∈ ["ab".toList, "c\n".toList], Received chunk) ∧
      ¬ ∀ calls, readLines '\n' calls (.connected 3)
          ["ab".toList, "c\n".toList] =
        (streamLines '\n' ["ab".toList, "c\n".toList].flatten).take calls := by
  constructor
  · simp only [List.mem_cons, List.not_mem_nil, or_false, forall_eq_or_imp,
      forall_eq]
    exact ⟨⟨by decide, by decide, by decide⟩, ⟨by decide, by decide, by decide⟩⟩
  · intro same
    have twice := same 2
    revert twice
    decide

end Concurrente.WebServer
