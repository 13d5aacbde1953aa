import Concurrente.WebServer.Network.LineReading

/-!
# Lines that arrive whole

When no line is cut by the end of a chunk, `readLine` returns the lines that
were sent.  What is behind the last of them stays where it arrived: in the
stream, or in chunks that have not been received.
-/

namespace Concurrente.WebServer

/-- Lines that were written one after another. -/
def terminated (separator : Char) (lines : List Text) : Text :=
  lines.flatMap fun line => line ++ [separator]

theorem terminated_cons (separator : Char) (line : Text) (lines : List Text) :
    terminated separator (line :: lines) =
      line ++ separator :: terminated separator lines := by
  simp [terminated]

theorem terminated_append (separator : Char) (first second : List Text) :
    terminated separator (first ++ second) =
      terminated separator first ++ terminated separator second := by
  simp [terminated]

theorem streamLines_terminated {separator : Char} {lines : List Text}
    (whole : ∀ line ∈ lines, separator ∉ line) (rest : Text) :
    streamLines separator (terminated separator lines ++ rest) =
      lines ++ streamLines separator rest := by
  induction lines with
  | nil => rfl
  | cons line lines ih =>
      rw [terminated_cons, List.append_assoc, List.cons_append,
        streamLines_cons (whole line List.mem_cons_self),
        ih fun other member => whole other (.tail _ member), List.cons_append]

/-- A delivery of some lines.  A first text has arrived and others follow as
chunks.  Each of them holds whole lines, and the one with the last line may
hold extra characters behind it; later chunks have none of the lines. -/
inductive Delivers (separator : Char) :
    Text → List Text → List Text → Text → List Text → Prop where
  | final {lines : List Text} {extra : Text} {later : List Text} :
      lines ≠ [] →
      Delivers separator (terminated separator lines ++ extra) later
        lines extra later
  | received {group lines : List Text} {chunk extra : Text}
      {chunks later : List Text} :
      chunk ≠ [] →
      chunk.length < 65535 →
      Delivers separator chunk chunks lines extra later →
      Delivers separator (terminated separator group) (chunk :: chunks)
        (group ++ lines) extra later

namespace InputStream

/-- Reading a line up to its separator leaves the flags cleared. -/
theorem getline_ofText {separator : Char} {line : Text}
    (whole : separator ∉ line) (rest : Text) :
    (ofText (line ++ separator :: rest)).getline separator =
      (some line, ofText rest) := by
  simp [getline, ofText, takeWhile_line whole, dropWhile_line whole]

end InputStream

/-- Calls of `readLine` that return some lines, one after another. -/
inductive ReadsLines (separator : Char) :
    SharedSocket → List Text → List Text → SharedSocket → List Text → Prop where
  | nil {socket : SharedSocket} {chunks : List Text} :
      ReadsLines separator socket chunks [] socket chunks
  | cons {socket next last : SharedSocket} {chunks left rest : List Text}
      {line : Text} {lines : List Text} :
      socket.readLine separator chunks =
        { line := some line, socket := next, pending := left } →
      ReadsLines separator next left lines last rest →
      ReadsLines separator socket chunks (line :: lines) last rest

theorem ReadsLines.append {separator : Char} {socket middle last : SharedSocket}
    {chunks left rest first second : List Text}
    (front : ReadsLines separator socket chunks first middle left)
    (behind : ReadsLines separator middle left second last rest) :
    ReadsLines separator socket chunks (first ++ second) last rest := by
  induction front with
  | nil => exact behind
  | cons read _ ih => exact .cons read (ih behind)

/-- Only the first call sees the socket as it is. -/
theorem ReadsLines.of_readLine_eq {separator : Char}
    {socket other last : SharedSocket} {chunks others rest lines : List Text}
    (reads : ReadsLines separator socket chunks lines last rest)
    (some : lines ≠ [])
    (same : other.readLine separator others = socket.readLine separator chunks) :
    ReadsLines separator other others lines last rest := by
  cases reads with
  | nil => exact (some rfl).elim
  | cons read later => exact .cons (same.trans read) later

namespace SharedSocket

theorem readLine_of_line {separator : Char} {line : Text}
    (whole : separator ∉ line) (socket : SharedSocket) (rest : Text)
    (chunks : List Text) :
    { socket with input := .ofText (line ++ separator :: rest) }.readLine
        separator chunks =
      { line := some line, socket := { socket with input := .ofText rest },
        pending := chunks } := by
  have extracted := InputStream.getline_ofText whole rest
  cases chunks with
  | nil => simp [readLine, extracted]
  | cons chunk chunks => simp [readLine, extracted]

/-- An exhausted stream is refilled with the next chunk. -/
theorem readLine_refill {socket : SharedSocket}
    (openSocket : 0 ≤ socket.socketFileDescriptor) (separator : Char)
    (chunk : Text) (chunks : List Text) :
    { socket with input := .ofText [] }.readLine separator (chunk :: chunks) =
      { socket with input := .ofText (cString chunk) }.readLine separator
        chunks := by
  have live : ¬ socket.socketFileDescriptor < 0 := by omega
  have empty : (InputStream.ofText []).getline separator =
      (none, { buffer := [], eof := true, fail := true }) := rfl
  rw [readLine, empty]
  simp only [live, if_false]

/-- Whole lines of the stream are read without receiving anything. -/
theorem readsLines_terminated {separator : Char} {lines : List Text}
    (whole : ∀ line ∈ lines, separator ∉ line) (socket : SharedSocket)
    (rest : Text) (chunks : List Text) :
    ReadsLines separator
      { socket with input := .ofText (terminated separator lines ++ rest) }
      chunks lines { socket with input := .ofText rest } chunks := by
  induction lines with
  | nil => exact .nil
  | cons line lines ih =>
      rw [terminated_cons, List.append_assoc, List.cons_append]
      apply ReadsLines.cons
      · exact readLine_of_line (whole line List.mem_cons_self) socket _ chunks
      · exact ih fun other member => whole other (.tail _ member)

end SharedSocket

theorem Delivers.lines_ne_nil {separator : Char} {arrived extra : Text}
    {chunks lines later : List Text}
    (delivered : Delivers separator arrived chunks lines extra later) :
    lines ≠ [] := by
  induction delivered with
  | final some => exact some
  | received _ _ _ ih => exact List.append_ne_nil_of_right_ne_nil _ ih

theorem notMem_terminated {separator c : Char} (different : c ≠ separator)
    {lines : List Text} (absent : ∀ line ∈ lines, c ∉ line) :
    c ∉ terminated separator lines := by
  intro member
  obtain ⟨line, inside, found⟩ := List.mem_flatMap.mp member
  rcases List.mem_append.mp found with text | last
  · exact absent line inside text
  · exact different (List.mem_singleton.mp last)

/-- The lines delivered are the ones that are read.  The stream keeps the
extra characters, up to a NUL. -/
theorem Delivers.readsLines {separator : Char} (notNul : '\x00' ≠ separator)
    {arrived extra : Text} {chunks lines later : List Text}
    (delivered : Delivers separator arrived chunks lines extra later)
    (whole : ∀ line ∈ lines, separator ∉ line)
    (plain : ∀ line ∈ lines, '\x00' ∉ line) {socket : SharedSocket}
    (openSocket : 0 ≤ socket.socketFileDescriptor) :
    ReadsLines separator
      { socket with input := .ofText (cString arrived) } chunks lines
      { socket with input := .ofText (cString extra) } later := by
  induction delivered with
  | final _ =>
      rw [cString_append (notMem_terminated notNul plain)]
      exact SharedSocket.readsLines_terminated whole socket _ _
  | @received group lines chunk extra chunks later _ _ next ih =>
      have first := SharedSocket.readsLines_terminated
        (fun line member => whole line (List.mem_append_left _ member))
        socket [] (chunk :: chunks)
      rw [List.append_nil] at first
      have behind := ih
        (fun line member => whole line (List.mem_append_right _ member))
        (fun line member => plain line (List.mem_append_right _ member))
      have bytes : cString (terminated separator group) =
          terminated separator group :=
        cString_of_notMem (notMem_terminated notNul fun line member =>
          plain line (List.mem_append_left _ member))
      rw [bytes]
      apply first.append
      -- the first of the other lines is read after the stream is refilled
      exact behind.of_readLine_eq next.lines_ne_nil
        (SharedSocket.readLine_refill openSocket separator chunk chunks)

end Concurrente.WebServer
