import Concurrente.WebServer.Network.Socket

/-!
# What `send` reports

`Socket::write` returns the number of bytes sent, zero or a negative number,
and `Socket::send` turns it into a `bool` and into the decision of clearing the
output buffer.  Only zero makes it report a failure.
-/

namespace Concurrente.WebServer

/-- The calls of `::send` for some bytes succeed until all are accepted. -/
def acceptsAll : Nat → List SendOutcome → Bool
  | _, [] => true
  | size, .accepted more :: outcomes =>
      size ≤ more + 1 || acceptsAll (size - (more + 1)) outcomes
  | _, .disconnected :: _ => false
  | _, .error :: _ => false

namespace SharedSocket

theorem write_of_acceptsAll {socket : SharedSocket}
    (openSocket : 0 ≤ socket.socketFileDescriptor) {buffer : Text}
    (nonempty : buffer ≠ []) {outcomes : List SendOutcome}
    (accepted : acceptsAll buffer.length outcomes = true) (sent : Nat) :
    socket.write buffer sent outcomes =
      ((sent : Int) + buffer.length,
        { socket with transmitted := socket.transmitted ++ buffer }) := by
  have live : ¬ socket.socketFileDescriptor < 0 := by omega
  induction outcomes generalizing socket buffer sent with
  | nil => simp [write, live, nonempty]
  | cons outcome outcomes ih =>
      have positive := List.length_pos_iff.mpr nonempty
      cases outcome with
      | disconnected => simp [acceptsAll] at accepted
      | error => simp [acceptsAll] at accepted
      | accepted more =>
          by_cases all : buffer.length ≤ more + 1
          · have count : min ((more : Int) + 1) buffer.length = buffer.length := by
              omega
            simp [write, live, SendOutcome.result, count, nonempty]
          · have result : min ((more : Int) + 1) buffer.length = more + 1 := by
              omega
            have later : buffer.drop (more + 1) ≠ [] := by
              rw [← List.length_pos_iff, List.length_drop]
              omega
            have rest : acceptsAll (buffer.drop (more + 1)).length outcomes =
                true := by
              simpa [acceptsAll, all] using accepted
            have step := @ih
              { socket with
                transmitted := socket.transmitted ++ buffer.take (more + 1) }
              openSocket _ later rest (sent + (more + 1)) live
            have bound : ¬ buffer.length ≤ more + 1 := all
            have size : ((more : Int) + 1).toNat = more + 1 := by omega
            have notZero : (more : Int) + 1 ≠ 0 := by omega
            have notNegative : ¬ (more : Int) + 1 ≤ 0 := by omega
            rw [write]
            simp only [live, if_false, SendOutcome.result, result, notZero,
              notNegative, size, bound, step]
            simp
            omega

/-- A call of `::send` that fails ends the loop with zero or minus one, and
some bytes are never accepted. -/
theorem write_of_not_acceptsAll {socket : SharedSocket}
    (openSocket : 0 ≤ socket.socketFileDescriptor) {buffer : Text}
    (nonempty : buffer ≠ []) {outcomes : List SendOutcome}
    (failed : acceptsAll buffer.length outcomes = false) (sent : Nat) :
    ((socket.write buffer sent outcomes).1 = 0 ∨
        (socket.write buffer sent outcomes).1 = -1) ∧
      (socket.write buffer sent outcomes).2.output = socket.output ∧
      ∃ accepted, accepted.length < buffer.length ∧
        (socket.write buffer sent outcomes).2.transmitted =
          socket.transmitted ++ accepted := by
  have live : ¬ socket.socketFileDescriptor < 0 := by omega
  have positive := List.length_pos_iff.mpr nonempty
  induction outcomes generalizing socket buffer sent with
  | nil => simp [acceptsAll] at failed
  | cons outcome outcomes ih =>
      cases outcome with
      | disconnected =>
          simp [write, live, SendOutcome.result, close, positive]
      | error => simp [write, live, SendOutcome.result, positive]
      | accepted more =>
          simp only [acceptsAll, Bool.or_eq_false_iff, decide_eq_false_iff_not]
            at failed
          obtain ⟨bound, rest⟩ := failed
          have result : min ((more : Int) + 1) buffer.length = more + 1 := by
            omega
          have later : 0 < (buffer.drop (more + 1)).length := by
            rw [List.length_drop]
            omega
          obtain ⟨returned, output, accepted, fewer, transmitted⟩ := @ih
            { socket with
              transmitted := socket.transmitted ++ buffer.take (more + 1) }
            openSocket _ (List.length_pos_iff.mp later)
            (by simpa using rest) (sent + (more + 1)) live later
          have size : ((more : Int) + 1).toNat = more + 1 := by omega
          have notZero : (more : Int) + 1 ≠ 0 := by omega
          have notNegative : ¬ (more : Int) + 1 ≤ 0 := by omega
          rw [write]
          simp only [live, if_false, SendOutcome.result, result, notZero,
            notNegative, size, bound]
          refine ⟨returned, output, buffer.take (more + 1) ++ accepted, ?_, ?_⟩
          · rw [List.length_drop] at fewer
            rw [List.length_append, List.length_take]
            omega
          · rw [transmitted, List.append_assoc]

theorem write_closed {socket : SharedSocket}
    (closed : socket.socketFileDescriptor < 0) (buffer : Text) (sent : Nat)
    (outcomes : List SendOutcome) :
    socket.write buffer sent outcomes = (-1, socket) := by
  cases outcomes <;> simp [write, closed]

section Send

variable {socket : SharedSocket} {outcomes : List SendOutcome}
  (nonempty : socket.output ≠ []) (small : socket.output.length < 2 ^ 64)

include nonempty small

theorem send_of_acceptsAll (openSocket : 0 ≤ socket.socketFileDescriptor)
    (accepted : acceptsAll socket.output.length outcomes = true) :
    socket.send outcomes =
      (true, { socket with
        output := [], transmitted := socket.transmitted ++ socket.output }) := by
  have positive := List.length_pos_iff.mpr nonempty
  have returned : sizeT (socket.output.length : Int) = socket.output.length := by
    unfold sizeT
    omega
  simp [send, write_of_acceptsAll openSocket nonempty accepted, returned,
    nonempty]

omit small in
/-- After a failed call, `send` either reports it and keeps the text in the
output buffer, or reports success although the text was not accepted whole. -/
theorem send_of_not_acceptsAll
    (failed : socket.socketFileDescriptor < 0 ∨
      acceptsAll socket.output.length outcomes = false) :
    ((socket.send outcomes).1 = false ∧
        (socket.send outcomes).2.output = socket.output) ∨
      ((socket.send outcomes).1 = true ∧
        ∃ accepted, accepted.length < socket.output.length ∧
          (socket.send outcomes).2.transmitted =
            socket.transmitted ++ accepted) := by
  have positive := List.length_pos_iff.mpr nonempty
  by_cases closed : socket.socketFileDescriptor < 0
  · refine .inr ⟨?_, [], positive, ?_⟩
    · simp [send, write_closed closed]
    · simp only [send, write_closed closed]
      split <;> simp
  have openSocket : 0 ≤ socket.socketFileDescriptor := by omega
  obtain ⟨returned, output, accepted, fewer, transmitted⟩ :=
    write_of_not_acceptsAll openSocket nonempty
      (failed.resolve_left closed) 0
  rcases returned with zero | negative
  · have kept : ¬ socket.output.length ≤ sizeT 0 := by
      have value : sizeT 0 = 0 := by decide
      omega
    refine .inl ⟨?_, ?_⟩
    · simp [send, zero]
    · simp only [send, zero, kept, if_false, output]
  · refine .inr ⟨?_, accepted, fewer, ?_⟩
    · simp [send, negative]
    · simp only [send, negative]
      split <;> exact transmitted

end Send

/-! ## Bytes accepted by the operating system -/

/-- How many of the bytes offered are accepted before a call of `::send`
fails. -/
def acceptedCount : Nat → List SendOutcome → Nat
  | size, [] => size
  | size, .accepted more :: outcomes =>
      if size ≤ more + 1 then size
      else more + 1 + acceptedCount (size - (more + 1)) outcomes
  | _, .disconnected :: _ => 0
  | _, .error :: _ => 0

theorem acceptedCount_of_acceptsAll {size : Nat} {outcomes : List SendOutcome}
    (accepted : acceptsAll size outcomes = true) :
    acceptedCount size outcomes = size := by
  induction outcomes generalizing size with
  | nil => rfl
  | cons outcome outcomes ih =>
      cases outcome with
      | disconnected => simp [acceptsAll] at accepted
      | error => simp [acceptsAll] at accepted
      | accepted more =>
          by_cases all : size ≤ more + 1
          · simp [acceptedCount, all]
          · have rest := @ih (size - (more + 1)) (by simpa [acceptsAll, all] using accepted)
            simp only [acceptedCount, all, if_false, rest]
            omega

/-- Calls of `::send` that all accept something accept everything. -/
theorem acceptsAll_of_accepting {outcomes : List SendOutcome}
    (accepting : ∀ outcome ∈ outcomes, ∃ more, outcome = .accepted more)
    (size : Nat) : acceptsAll size outcomes = true := by
  induction outcomes generalizing size with
  | nil => rfl
  | cons outcome outcomes ih =>
      obtain ⟨more, rfl⟩ := accepting outcome List.mem_cons_self
      have later := ih (fun other member => accepting other (.tail _ member))
        (size - (more + 1))
      simp [acceptsAll, later]

/-- The bytes accepted during a call are a prefix of those offered. -/
theorem transmitted_write {socket : SharedSocket}
    (openSocket : 0 ≤ socket.socketFileDescriptor) (buffer : Text) (sent : Nat)
    (outcomes : List SendOutcome) :
    (socket.write buffer sent outcomes).2.transmitted =
      socket.transmitted ++ buffer.take (acceptedCount buffer.length outcomes) := by
  have live : ¬ socket.socketFileDescriptor < 0 := by omega
  induction outcomes generalizing socket buffer sent with
  | nil =>
      by_cases empty : buffer = []
      · simp [write, live, empty, close]
      · simp [write, live, empty, acceptedCount]
  | cons outcome outcomes ih =>
      cases outcome with
      | disconnected =>
          simp [write, live, SendOutcome.result, close, acceptedCount]
      | error => simp [write, live, SendOutcome.result, acceptedCount]
      | accepted more =>
          by_cases empty : buffer = []
          · have count : min ((more : Int) + 1) 0 = 0 := by omega
            simp [write, live, SendOutcome.result, empty, close, count]
          have positive := List.length_pos_iff.mpr empty
          by_cases all : buffer.length ≤ more + 1
          · have count : min ((more : Int) + 1) buffer.length = buffer.length := by
              omega
            simp [write, live, SendOutcome.result, count, empty, acceptedCount, all]
          · have result : min ((more : Int) + 1) buffer.length = more + 1 := by
              omega
            have later := @ih
              { socket with
                transmitted := socket.transmitted ++ buffer.take (more + 1) }
              openSocket (buffer.drop (more + 1)) (sent + (more + 1)) live
            have size : ((more : Int) + 1).toNat = more + 1 := by omega
            have notZero : (more : Int) + 1 ≠ 0 := by omega
            have notNegative : ¬ (more : Int) + 1 ≤ 0 := by omega
            rw [write]
            simp only [live, if_false, SendOutcome.result, result, notZero,
              notNegative, size, all, later, acceptedCount]
            rw [List.append_assoc, ← List.take_add, List.length_drop]

/-- What a caller of `send` expects: the bytes accepted come first in the
output buffer, the call reports whether they are all of it, and the others
stay in the buffer. -/
def SendsExactly (socket : SharedSocket) (reported : Bool)
    (after : SharedSocket) : Prop :=
  ∃ accepted kept, socket.output = accepted ++ kept ∧
    after.transmitted = socket.transmitted ++ accepted ∧
    (reported = true ↔ kept = []) ∧ after.output = kept

theorem transmitted_send (socket : SharedSocket) (outcomes : List SendOutcome) :
    (socket.send outcomes).2.transmitted =
      (socket.write socket.output 0 outcomes).2.transmitted := by
  simp only [send]
  split <;> rfl

theorem send_closed {socket : SharedSocket}
    (closed : socket.socketFileDescriptor < 0) (outcomes : List SendOutcome) :
    (socket.send outcomes).1 = true := by
  simp [send, write_closed closed]

theorem send_disconnected {socket : SharedSocket}
    (openSocket : 0 ≤ socket.socketFileDescriptor)
    (nonempty : socket.output ≠ []) (outcomes : List SendOutcome) :
    socket.send (.disconnected :: outcomes) = (false, socket.close) := by
  have live : ¬ socket.socketFileDescriptor < 0 := by omega
  have kept : ¬ socket.output.length ≤ sizeT 0 := by
    have positive := List.length_pos_iff.mpr nonempty
    have value : sizeT 0 = 0 := by decide
    omega
  simp [send, write, live, SendOutcome.result, kept]

theorem send_error {socket : SharedSocket} (outcomes : List SendOutcome) :
    (socket.send (.error :: outcomes)).1 = true := by
  simp [send, write, SendOutcome.result]

/-- A call that keeps the whole output buffer without an error has accepted
nothing of it only when the peer disconnected at once. -/
theorem head_of_nothing_accepted {socket : SharedSocket}
    {outcomes : List SendOutcome}
    (openSocket : 0 ≤ socket.socketFileDescriptor) (nonempty : socket.output ≠ [])
    (reported : (socket.send outcomes).1 = false)
    (nothing : (socket.send outcomes).2.transmitted = socket.transmitted) :
    outcomes.head? = some .disconnected := by
  have positive := List.length_pos_iff.mpr nonempty
  rw [transmitted_send, transmitted_write openSocket, List.append_right_eq_self,
    List.take_eq_nil_iff] at nothing
  have none := nothing.resolve_right nonempty
  cases outcomes with
  | nil =>
      simp only [acceptedCount] at none
      omega
  | cons outcome outcomes =>
      cases outcome with
      | disconnected => rfl
      | error => simp [send_error] at reported
      | accepted more =>
          simp only [acceptedCount] at none
          split at none <;> omega

/-- Apart from accepting all the bytes, only a peer that disconnects before
the first of them makes `send` report what has happened: minus one counts as
a success and as a large size, and zero after some progress keeps the bytes
that are gone. -/
theorem sendsExactly_iff {socket : SharedSocket} {outcomes : List SendOutcome}
    (nonempty : socket.output ≠ []) (small : socket.output.length < 2 ^ 64) :
    SendsExactly socket (socket.send outcomes).1 (socket.send outcomes).2 ↔
      0 ≤ socket.socketFileDescriptor ∧
        (acceptsAll socket.output.length outcomes = true ∨
          outcomes.head? = some .disconnected) := by
  constructor
  · intro exact
    obtain ⟨accepted, kept, shape, transmitted, reported, output⟩ := exact
    by_cases success : 0 ≤ socket.socketFileDescriptor ∧
        acceptsAll socket.output.length outcomes = true
    · exact ⟨success.1, .inl success.2⟩
    have failed : socket.socketFileDescriptor < 0 ∨
        acceptsAll socket.output.length outcomes = false := by
      by_contra neither
      simp only [not_or, not_lt, Bool.not_eq_false] at neither
      exact success neither
    rcases send_of_not_acceptsAll nonempty failed with ⟨refused, whole⟩ | ⟨claimed, some⟩
    · have openSocket : 0 ≤ socket.socketFileDescriptor := by
        by_contra closed
        simp [send_closed (by omega : socket.socketFileDescriptor < 0)] at refused
      have nothing : accepted = [] := by
        rw [whole] at output
        rw [← output, List.self_eq_append_left] at shape
        exact shape
      refine ⟨openSocket, .inr ?_⟩
      apply head_of_nothing_accepted openSocket nonempty refused
      rw [transmitted, nothing, List.append_nil]
    · obtain ⟨fewer, shorter, partly⟩ := some
      have all : kept = [] := reported.mp claimed
      rw [transmitted] at partly
      have same := List.append_cancel_left partly
      rw [shape, all, List.append_nil, same] at shorter
      omega
  · intro condition
    obtain ⟨openSocket, accepted | disconnected⟩ := condition
    · rw [send_of_acceptsAll nonempty small openSocket accepted]
      exact ⟨socket.output, [], by simp, rfl, by simp, rfl⟩
    · obtain ⟨outcomes, rfl⟩ := List.head?_eq_some_iff.mp disconnected
      rw [send_disconnected openSocket nonempty]
      exact ⟨[], socket.output, rfl, by simp [close], by simp [nonempty], rfl⟩

/-- Two bytes sent in two calls. -/
theorem sendsExactly_iff_sample :
    let socket := (connected 3).insert "ab".toList
    SendsExactly socket (socket.send [.accepted 0, .accepted 0]).1
      (socket.send [.accepted 0, .accepted 0]).2 :=
  (sendsExactly_iff (by decide) (by decide)).mpr (by decide)

/-- An error after the first of two bytes is reported as a success, and the
output buffer is cleared although the second byte was not accepted. -/
theorem send_error_after_progress :
    let socket := (connected 3).insert "ab".toList
    socket.send [.accepted 0, .error] =
        (true, { socket with output := [], transmitted := "a".toList }) ∧
      ¬ SendsExactly socket (socket.send [.accepted 0, .error]).1
        (socket.send [.accepted 0, .error]).2 := by
  intro socket
  have outcome : socket.send [.accepted 0, .error] =
      (true, { socket with output := [], transmitted := "a".toList }) := by decide
  refine ⟨outcome, ?_⟩
  intro contract
  obtain ⟨accepted, kept, shape, transmitted, reported, output⟩ := contract
  rw [outcome] at transmitted reported
  have all : kept = [] := reported.mp rfl
  have one : accepted = "a".toList := transmitted.symm
  rw [all, one] at shape
  simp [socket, insert, connected] at shape

end SharedSocket

end Concurrente.WebServer
