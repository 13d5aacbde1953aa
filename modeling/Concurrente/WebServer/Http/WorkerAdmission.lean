import Concurrente.WebServer.Http.ProductionLine
import Concurrente.WebServer.Network.Delivery
import Concurrente.WebServer.Network.Sending
import Concurrente.WebServer.Network.TcpClient

/-!
# The admission of a worker

A worker connects to its master and sends the password, without an end of
line.  The master reads a line, which is what arrives first: the worker is
admitted exactly if the password arrives in one piece.
-/

namespace Concurrente.WebServer

/-- `WORKER_PASSWORD`. -/
def workerPassword : Text := "workerSecret".toList

/-- `ResponseClient::connectToMaster`.  The result of sending the password is
not looked at. -/
def ResponseClient.connectToMaster {Address : Type*} (server port : Text)
    (getaddrinfo : Except Text (List (PeerInfo Address))) (outcomes : List SendOutcome)
    (client : TcpClient Address) : Except ConnectFault Unit × TcpClient Address :=
  match client.connect server port getaddrinfo with
  | (.error fault, client) => (.error fault, client)
  | (.ok _, client) => (.ok (), client.send workerPassword outcomes)

/-- `MasterServer::handleClientConnection`: whether the worker is admitted, its
socket and the chunks that were not received yet. -/
def MasterServer.handleClientConnection (workerConnection : SharedSocket)
    (chunks : List Text) : Bool × SharedSocket × List Text :=
  let read := workerConnection.readLine '\n' chunks
  (decide (read.line = some workerPassword), read.socket, read.pending)

/-! ## The first line -/

namespace SharedSocket

/-- A text without an end of line is a line of its own. -/
theorem getline_whole {text : Text} (nonempty : text ≠ []) (noLine : '\n' ∉ text) :
    (InputStream.ofText text).getline '\n' = (some text, ⟨[], true, false⟩) := by
  have different := bne_of_notMem noLine
  have taken := List.takeWhile_eq_self_iff.mpr different
  have dropped := List.dropWhile_eq_nil_iff.mpr different
  simp [InputStream.getline, InputStream.ofText, nonempty, taken, dropped]

/-- The first line that is read is the first chunk, when no line ends in it. -/
theorem readLine_first_chunk (number : Nat) {chunk : Text} (nonempty : chunk ≠ [])
    (noLine : '\n' ∉ chunk) (noNul : '\x00' ∉ chunk) (chunks : List Text) :
    (connected number).readLine '\n' (chunk :: chunks) =
      { line := some chunk
        socket := { connected number with input := ⟨[], true, false⟩ }
        pending := chunks } := by
  have opened : 0 ≤ (connected number).socketFileDescriptor := Int.natCast_nonneg number
  have extracted := getline_whole nonempty noLine
  have refilled := readLine_refill opened '\n' chunk chunks
  rw [cString_of_notMem noNul] at refilled
  refine refilled.trans ?_
  cases chunks with
  | nil => simp [readLine, extracted]
  | cons next chunks => simp [readLine, extracted]

/-- Once a stream has been read to its end, the next chunk is read as the first
one of a new connection. -/
theorem readLine_after_end (number : Nat) (separator : Char) (chunk : Text)
    (chunks : List Text) :
    { connected number with input := ⟨[], true, false⟩ }.readLine separator
        (chunk :: chunks) =
      (connected number).readLine separator (chunk :: chunks) := by
  have opened : 0 ≤ (connected number).socketFileDescriptor := Int.natCast_nonneg number
  refine Eq.trans ?_ (readLine_refill opened separator chunk chunks).symm
  simp [readLine, InputStream.getline, opened]

end SharedSocket

/-! ## What the worker sends -/

/-- Whatever becomes of the calls of `::send`, a prefix of a text is sent. -/
theorem TcpClient.transmitted_send {Address : Type*} {client : TcpClient Address}
    (unsent : client.socket.output = []) (fresh : client.socket.transmitted = [])
    (text : Text) (outcomes : List SendOutcome) :
    (client.send text outcomes).socket.transmitted <+: text := by
  have output : (client.socket.insert text).output = text := by
    simp [SharedSocket.insert, unsent]
  have transmitted : (client.socket.insert text).transmitted = [] := fresh
  have sent : (client.send text outcomes).socket.transmitted =
      ((client.socket.insert text).write text 0 outcomes).2.transmitted := by
    rw [TcpClient.send, SharedSocket.transmitted_send, output]
  rw [sent]
  by_cases closed : (client.socket.insert text).socketFileDescriptor < 0
  · rw [SharedSocket.write_closed closed, transmitted]
    exact List.nil_prefix
  · rw [SharedSocket.transmitted_write (by omega), transmitted, List.nil_append]
    exact List.take_prefix _ _

theorem transmitted_connectToMaster {Address : Type*} (server port : Text)
    (getaddrinfo : Except Text (List (PeerInfo Address))) (outcomes : List SendOutcome) :
    (ResponseClient.connectToMaster server port getaddrinfo outcomes .new).2.socket.transmitted
      <+: workerPassword := by
  obtain ⟨-, -, kept⟩ := TcpClient.has_new.connect server port getaddrinfo
  rw [ResponseClient.connectToMaster]
  generalize TcpClient.connect server port getaddrinfo .new = connected at kept
  obtain ⟨outcome, client⟩ := connected
  cases outcome with
  | error fault =>
      have unsent : client.socket.transmitted = [] := kept.transmitted
      simp only [unsent]
      exact List.nil_prefix
  | ok _ => exact client.transmitted_send kept.output kept.transmitted workerPassword outcomes

theorem outcome_connectToMaster {Address : Type*} (server port : Text)
    (getaddrinfo : Except Text (List (PeerInfo Address))) (outcomes : List SendOutcome) :
    (ResponseClient.connectToMaster server port getaddrinfo outcomes .new).1 =
      (ClientCall.connect server port getaddrinfo).outcome := by
  obtain ⟨outcome, -, -⟩ := TcpClient.has_new.connect server port getaddrinfo
  rw [ResponseClient.connectToMaster, ← outcome]
  cases TcpClient.connect server port getaddrinfo .new with
  | mk outcome client => cases outcome <;> rfl

/-! ## Who is admitted -/

namespace MasterServer

/-- What arrives of the password first is the line that the master reads. -/
theorem handleClientConnection_chunk (number : Nat) {chunk : Text} (nonempty : chunk ≠ [])
    (isPrefix : chunk <+: workerPassword) (chunks : List Text) :
    handleClientConnection (.connected number) (chunk :: chunks) =
      (decide (chunk = workerPassword),
        { SharedSocket.connected number with input := ⟨[], true, false⟩ }, chunks) := by
  have noLine : '\n' ∉ chunk := fun member =>
    absurd (isPrefix.subset member) (by decide)
  have noNul : '\x00' ∉ chunk := fun member =>
    absurd (isPrefix.subset member) (by decide)
  rw [handleClientConnection,
    SharedSocket.readLine_first_chunk number nonempty noLine noNul chunks]
  simp

/-- The thread of the line adds the workers that are admitted to the pool. -/
theorem readPassword_adding_iff {config : Configuration} (worker : config.Worker)
    (correct : Bool) (shared : Shared config) :
    readPassword worker (.password correct) shared = some (shared, .adding worker) ↔
      correct = true := by
  cases correct <;> simp [readPassword]

end MasterServer

/-- A worker starts if it can connect, whatever becomes of its password.  The
master adds it to the pool exactly if the password arrives as one chunk, and
reads what comes next as from a new connection. -/
theorem worker_admission {Address : Type*} (server port : Text)
    (getaddrinfo : Except Text (List (PeerInfo Address))) (outcomes : List SendOutcome)
    (number : Nat) {chunks : List Text}
    (arrives : chunks.flatten =
      (ResponseClient.connectToMaster server port getaddrinfo outcomes
        .new).2.socket.transmitted)
    (nonempty : ∀ chunk ∈ chunks, chunk ≠ []) :
    (ResponseClient.connectToMaster server port getaddrinfo outcomes .new).1 =
        (ClientCall.connect server port getaddrinfo).outcome ∧
      (∀ (config : Configuration) (worker : config.Worker) (shared : Shared config),
        MasterServer.readPassword worker
            (.password
              (MasterServer.handleClientConnection (.connected number) chunks).1) shared =
          some (shared, .adding worker) ↔ chunks = [workerPassword]) ∧
      (chunks = [workerPassword] → ∀ separator chunk later,
        (MasterServer.handleClientConnection (.connected number) chunks).2.1.readLine
            separator (chunk :: later) =
          (SharedSocket.connected number).readLine separator (chunk :: later)) := by
  have sent := transmitted_connectToMaster server port getaddrinfo outcomes
  rw [← arrives] at sent
  refine ⟨outcome_connectToMaster server port getaddrinfo outcomes, ?_, ?_⟩
  · intro config worker shared
    rw [MasterServer.readPassword_adding_iff]
    cases chunks with
    | nil => simp [MasterServer.handleClientConnection, SharedSocket.readLine,
        SharedSocket.connected, InputStream.getline, InputStream.ofText]
    | cons chunk chunks =>
        rw [List.flatten_cons] at sent
        obtain ⟨first, others⟩ := List.forall_mem_cons.mp nonempty
        rw [MasterServer.handleClientConnection_chunk number first
          ((List.prefix_append _ _).trans sent), decide_eq_true_iff]
        constructor
        · rintro rfl
          -- nothing is left for another chunk
          have nothing : chunks.flatten = [] := by
            have short := sent.length_le
            rw [List.length_append] at short
            exact List.length_eq_zero_iff.mp (by omega)
          cases chunks with
          | nil => rfl
          | cons next chunks =>
              exact absurd (List.append_eq_nil_iff.mp nothing).1
                (others next List.mem_cons_self)
        · intro whole
          cases whole
          rfl
  · rintro rfl separator chunk later
    rw [MasterServer.handleClientConnection_chunk number (by decide) List.prefix_rfl]
    exact SharedSocket.readLine_after_end number separator chunk later

/-- The master of a machine, reached by its address. -/
def localMaster : List (PeerInfo Nat) := [⟨2130706433, some 3, 0⟩]

theorem fewApplications_nil : ([] : List HttpApp).length < 2 ^ 64 :=
  Nat.two_pow_pos 64

/-- A master with one worker. -/
def oneWorker : Configuration :=
  { applications := []
    fewApplications := fewApplications_nil
    maxConnections := 1
    calculatorsAmount := 1
    maxWorkerConnections := 1
    workers := 1
    workerCalculators := fun _ => 1 }

/-- A password that is sent in one call of `::send` and arrives in two chunks. -/
theorem worker_admission_broken :
    MasterServer.readPassword (⟨0, Nat.one_pos⟩ : oneWorker.Worker)
        (.password (MasterServer.handleClientConnection (.connected 4)
          ["worker".toList, "Secret".toList]).1) oneWorker.start.store ≠
      some (oneWorker.start.store, .adding ⟨0, Nat.one_pos⟩) := by
  intro added
  have whole := ((worker_admission "localhost".toList "8081".toList (.ok localMaster) [] 4
    (by decide) (by decide)).2.1 oneWorker _ _).mp added
  exact absurd whole (by decide)

end Concurrente.WebServer
