import Concurrente.WebServer.Network.Socket

/-!
# Reading a number of bytes

`Socket::read` takes bytes from the descriptor, underneath the stream that
`readLine` reads from.  What the stream holds already is not among them.
-/

namespace Concurrente.WebServer.SharedSocket

/-- What a call of `read` leaves: its result, the bytes in the buffer, the
socket and the chunks that have not been delivered yet. -/
structure BytesRead where
  result : Int
  buffer : Text
  socket : SharedSocket
  pending : List Text
  deriving DecidableEq, Repr

/-- `Socket::read`, with the bytes received so far.  `::recv` delivers a chunk
or, when there is less room than that, its start. -/
def read (socket : SharedSocket) (size : Nat) (received : Text) :
    List Text → BytesRead
  | [] =>
      if size ≤ received.length then
        { result := received.length, buffer := received, socket, pending := [] }
      else if socket.socketFileDescriptor < 0 then
        { result := -1, buffer := received, socket, pending := [] }
      else
        { result := 0, buffer := received, socket := socket.close, pending := [] }
  | chunk :: chunks =>
      if size ≤ received.length then
        { result := received.length, buffer := received, socket,
          pending := chunk :: chunks }
      else if socket.socketFileDescriptor < 0 then
        { result := -1, buffer := received, socket, pending := chunk :: chunks }
      else
        let capacity := size - received.length
        if capacity < chunk.length then
          -- the loop ends here, since the buffer is full
          { result := size, buffer := received ++ chunk.take capacity, socket,
            pending := chunk.drop capacity :: chunks }
        else read socket size (received ++ chunk) chunks

variable {socket : SharedSocket}
  (openSocket : 0 ≤ socket.socketFileDescriptor) {size : Nat}

include openSocket

/-- The buffer is filled with the first bytes of the chunks, wherever their
boundaries are. -/
theorem read_of_enough {received : Text} {chunks : List Text}
    (room : received.length ≤ size)
    (enough : size ≤ received.length + chunks.flatten.length) :
    ∃ pending, socket.read size received chunks =
        { result := size
          buffer := received ++ chunks.flatten.take (size - received.length)
          socket
          pending } ∧
      pending.flatten = chunks.flatten.drop (size - received.length) := by
  have live : ¬ socket.socketFileDescriptor < 0 := by omega
  induction chunks generalizing received with
  | nil =>
      have full : received.length = size := by
        simp only [List.flatten_nil, List.length_nil] at enough
        omega
      exact ⟨[], by simp [read, full], by simp⟩
  | cons chunk chunks ih =>
      rw [read]
      by_cases full : size ≤ received.length
      · have none : size - received.length = 0 := by omega
        have same : received.length = size := by omega
        rw [if_pos full, none]
        exact ⟨chunk :: chunks, by simp [same], rfl⟩
      rw [if_neg full, if_neg live, List.flatten_cons]
      by_cases partly : size - received.length < chunk.length
      · refine ⟨chunk.drop (size - received.length) :: chunks, ?_, ?_⟩
        · rw [if_pos partly, List.take_append_of_le_length (by omega)]
        · rw [List.flatten_cons, List.drop_append_of_le_length (by omega)]
      · have later := @ih (received ++ chunk)
          (by rw [List.length_append]; omega)
          (by
            rw [List.flatten_cons, List.length_append] at enough
            rw [List.length_append]
            omega)
        have left : size - (received ++ chunk).length =
            size - received.length - chunk.length := by
          rw [List.length_append]
          omega
        obtain ⟨pending, result, rest⟩ := later
        refine ⟨pending, ?_, ?_⟩
        · rw [if_neg partly, result, left, List.take_append,
            List.take_of_length_le (show chunk.length ≤ _ by omega),
            List.append_assoc]
        · rw [rest, left, List.drop_append,
            List.drop_of_length_le (show chunk.length ≤ _ by omega),
            List.nil_append]

/-- When the peer sends fewer bytes, the connection ends first. -/
theorem read_of_short {received : Text} {chunks : List Text}
    (short : received.length + chunks.flatten.length < size) :
    (socket.read size received chunks).result = 0 := by
  have live : ¬ socket.socketFileDescriptor < 0 := by omega
  induction chunks generalizing received with
  | nil =>
      have missing : ¬ size ≤ received.length := by
        simp only [List.flatten_nil, List.length_nil] at short
        omega
      simp [read, missing, live]
  | cons chunk chunks ih =>
      rw [List.flatten_cons, List.length_append] at short
      have missing : ¬ size ≤ received.length := by omega
      have whole : ¬ size - received.length < chunk.length := by omega
      rw [read, if_neg missing, if_neg live]
      simp only [whole, if_false]
      apply ih
      rw [List.length_append]
      omega

end Concurrente.WebServer.SharedSocket
