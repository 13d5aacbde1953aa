import Concurrente.WebServer.Network.Socket

/-!
# Connecting to a server

A client connects to the first address of its server for which it can open a
socket, and to no other one.  It can be connected again and again: what a call
comes to does not depend on the calls before it, and the client never has more
than one descriptor open.  Only its streams stay what they were.
-/

namespace Concurrente.WebServer

variable {Address : Type*}

/-- An entry of the list of `getaddrinfo`, with what the operating system
answers if the client tries it.  A `socket` of `-1` is none. -/
structure PeerInfo (Address : Type*) where
  address : Address
  socket : Option Nat
  connect : Int

/-- Why a call does not return: an exception leaves it, or an `assert` fails. -/
inductive ConnectFault where
  | exception (error : StdException)
  | assertion
  deriving DecidableEq, Repr

/-- The members of a client, and the descriptors it has open.  The list of
addresses is a pointer. -/
structure TcpClient (Address : Type*) where
  availableAddresses : Option (List (PeerInfo Address))
  selectedAddress : Option (PeerInfo Address)
  socket : SharedSocket
  openDescriptors : List Nat

namespace TcpClient

/-- The constructor. -/
def new : TcpClient Address :=
  { availableAddresses := none
    selectedAddress := none
    socket :=
      { socketFileDescriptor := -1
        output := []
        input := .ofText []
        transmitted := [] }
    openDescriptors := [] }

/-- `TcpClient::close`. -/
def close (client : TcpClient Address) : TcpClient Address :=
  { client with
    availableAddresses := none
    socket := client.socket.close
    openDescriptors :=
      if 0 ≤ client.socket.socketFileDescriptor then
        client.openDescriptors.erase client.socket.socketFileDescriptor.toNat
      else client.openDescriptors }

/-- `TcpClient::fetchAvailableAddresses`, with the list of `getaddrinfo` or the
text of its error. -/
def fetchAvailableAddresses (getaddrinfo : Except Text (List (PeerInfo Address)))
    (client : TcpClient Address) : Except ConnectFault Unit × TcpClient Address :=
  if client.availableAddresses.isSome then (.error .assertion, client)
  else
    match getaddrinfo with
    | .ok addresses => (.ok (), { client with availableAddresses := some addresses })
    | .error text =>
        (.error (.exception (.runtimeError ("getaddrinfo: ".toList ++ text))), client)

/-- The text `server:port`. -/
def peerText (server port : Text) : Text :=
  server ++ ':' :: port

/-- A socket was opened for an address. -/
def select (client : TcpClient Address) (address : PeerInfo Address) (descriptor : Nat) :
    TcpClient Address :=
  { client with
    selectedAddress := some address
    socket := { client.socket with socketFileDescriptor := descriptor }
    openDescriptors := descriptor :: client.openDescriptors }

/-- The loop of `openSocketWithServer`: it ends with the first socket that can
be opened. -/
def openFirst (server port : Text) (client : TcpClient Address) :
    List (PeerInfo Address) → Except ConnectFault (PeerInfo Address) × TcpClient Address
  | [] =>
      (.error (.exception (.runtimeError
        ("could not get address for ".toList ++ peerText server port))), client)
  | address :: addresses =>
      match address.socket with
      | some descriptor => (.ok address, client.select address descriptor)
      | none => openFirst server port client addresses

/-- `TcpClient::openSocketWithServer`, with the address it selects. -/
def openSocketWithServer (server port : Text) (client : TcpClient Address) :
    Except ConnectFault (PeerInfo Address) × TcpClient Address :=
  if client.socket.socketFileDescriptor ≠ -1 then (.error .assertion, client)
  else openFirst server port client (client.availableAddresses.getD [])

/-- `TcpClient::connect`. -/
def connect (server port : Text) (getaddrinfo : Except Text (List (PeerInfo Address)))
    (client : TcpClient Address) : Except ConnectFault Unit × TcpClient Address :=
  match client.close.fetchAvailableAddresses getaddrinfo with
  | (.error fault, client) => (.error fault, client)
  | (.ok _, client) =>
      match client.openSocketWithServer server port with
      | (.error fault, client) => (.error fault, client)
      | (.ok address, client) =>
          if address.connect ≠ 0 then
            (.error (.exception (.runtimeError
              ("could not connect to ".toList ++ peerText server port))), client.close)
          else (.ok (), client)

/-- `send` on the socket of the client, of a text inserted before: a peer that
has disconnected makes it close the socket. -/
def send (text : Text) (outcomes : List SendOutcome) (client : TcpClient Address) :
    TcpClient Address :=
  let socket := ((client.socket.insert text).send outcomes).2
  { client with
    socket
    openDescriptors :=
      if socket.socketFileDescriptor = client.socket.socketFileDescriptor then
        client.openDescriptors
      else client.openDescriptors.erase client.socket.socketFileDescriptor.toNat }

end TcpClient

/-- A call of a client. -/
inductive ClientCall (Address : Type*) where
  | connect (server port : Text) (getaddrinfo : Except Text (List (PeerInfo Address)))
  | close

namespace TcpClient

/-- A call. -/
def perform (client : TcpClient Address) :
    ClientCall Address → Except ConnectFault Unit × TcpClient Address
  | .connect server port getaddrinfo => client.connect server port getaddrinfo
  | .close => (.ok (), client.close)

/-- Calls one after another: what they come to, and the client they leave. -/
def performAll (client : TcpClient Address) :
    List (ClientCall Address) → List (Except ConnectFault Unit) × TcpClient Address
  | [] => ([], client)
  | call :: calls =>
      let performed := client.perform call
      let later := performAll performed.2 calls
      (performed.1 :: later.1, later.2)

end TcpClient

/-! ## What is expected of a call -/

namespace ClientCall

/-- The address a call would connect to: the first one with a socket. -/
def target : ClientCall Address → Option (PeerInfo Address)
  | .connect _ _ (.ok addresses) => addresses.find? fun info => info.socket.isSome
  | _ => none

/-- What a call comes to. -/
def outcome (call : ClientCall Address) : Except ConnectFault Unit :=
  match call with
  | .close => .ok ()
  | .connect _ _ (.error text) =>
      .error (.exception (.runtimeError ("getaddrinfo: ".toList ++ text)))
  | .connect server port (.ok _) =>
      match call.target with
      | none =>
          .error (.exception (.runtimeError
            ("could not get address for ".toList ++ TcpClient.peerText server port)))
      | some info =>
          if info.connect = 0 then .ok ()
          else
            .error (.exception (.runtimeError
              ("could not connect to ".toList ++ TcpClient.peerText server port)))

/-- The descriptor that is open after a call. -/
def descriptor (call : ClientCall Address) : Option Nat :=
  match call.target with
  | some info => if info.connect = 0 then info.socket else none
  | none => none

end ClientCall

namespace TcpClient

/-- A client with one descriptor open, or none. -/
structure Has (client : TcpClient Address) (descriptor : Option Nat) : Prop where
  socket : client.socket.socketFileDescriptor = (descriptor.map Nat.cast).getD (-1)
  descriptors : client.openDescriptors = descriptor.toList

/-- A client with the same streams as another one. -/
structure KeepsStreams (before after : TcpClient Address) : Prop where
  input : after.socket.input = before.socket.input
  output : after.socket.output = before.socket.output
  transmitted : after.socket.transmitted = before.socket.transmitted

/-! ## One call -/

theorem has_new : (new : TcpClient Address).Has none :=
  ⟨rfl, rfl⟩

variable {client : TcpClient Address} {descriptor : Option Nat}

theorem Has.close (has : client.Has descriptor) : client.close.Has none := by
  obtain ⟨socket, descriptors⟩ := has
  cases descriptor with
  | none =>
      have closed : client.socket.socketFileDescriptor = -1 := socket
      constructor
      · simp [TcpClient.close, SharedSocket.close, closed]
      · simp [TcpClient.close, closed, descriptors]
  | some number =>
      have opened : client.socket.socketFileDescriptor = number := socket
      constructor
      · simp [TcpClient.close, SharedSocket.close, opened]
      · simp [TcpClient.close, opened, descriptors]

theorem keepsStreams_close (client : TcpClient Address) :
    client.KeepsStreams client.close :=
  ⟨rfl, rfl, rfl⟩

theorem Has.select (has : client.Has none) (address : PeerInfo Address) (number : Nat) :
    (client.select address number).Has (some number) := by
  constructor
  · rfl
  · rw [TcpClient.select, has.descriptors]
    rfl

section Search

variable {server port : Text} {addresses : List (PeerInfo Address)}

theorem openFirst_of_none (client : TcpClient Address)
    (none : addresses.find? (fun info => info.socket.isSome) = none) :
    client.openFirst server port addresses =
      (.error (.exception (.runtimeError
        ("could not get address for ".toList ++ peerText server port))), client) := by
  induction addresses with
  | nil => rfl
  | cons address addresses ih =>
      cases opened : address.socket with
      | some number => simp [opened] at none
      | none =>
          simp only [openFirst, opened]
          apply ih
          simpa [opened] using none

theorem openFirst_of_some (client : TcpClient Address) {info : PeerInfo Address}
    (found : addresses.find? (fun info => info.socket.isSome) = some info) :
    ∃ number, info.socket = some number ∧
      client.openFirst server port addresses = (.ok info, client.select info number) := by
  induction addresses with
  | nil => cases found
  | cons address addresses ih =>
      cases opened : address.socket with
      | some number =>
          obtain rfl : address = info := by simpa [opened] using found
          exact ⟨number, opened, by simp only [openFirst, opened]⟩
      | none =>
          simp only [openFirst, opened]
          apply ih
          simpa [opened] using found

end Search

/-- A call of `connect` comes to what its own outcomes say. -/
theorem Has.connect (has : client.Has descriptor) (server port : Text)
    (getaddrinfo : Except Text (List (PeerInfo Address))) :
    (client.connect server port getaddrinfo).1 =
        (ClientCall.connect server port getaddrinfo).outcome ∧
      (client.connect server port getaddrinfo).2.Has
        (ClientCall.connect server port getaddrinfo).descriptor ∧
      client.KeepsStreams (client.connect server port getaddrinfo).2 := by
  have closed := has.close
  cases getaddrinfo with
  | error text => exact ⟨rfl, closed, keepsStreams_close client⟩
  | ok addresses =>
      let fetched : TcpClient Address :=
        { client.close with availableAddresses := some addresses }
      have unconnected : fetched.Has none := ⟨closed.socket, closed.descriptors⟩
      have fetch : client.close.fetchAvailableAddresses (.ok addresses) =
          (.ok (), fetched) := rfl
      have search : fetched.openSocketWithServer server port =
          fetched.openFirst server port addresses :=
        if_neg (not_not.mpr unconnected.socket)
      rw [TcpClient.connect, fetch]
      dsimp only
      rw [search]
      cases found : addresses.find? fun info => info.socket.isSome with
      | none =>
          rw [openFirst_of_none fetched found]
          refine ⟨?_, ?_, rfl, rfl, rfl⟩
          · simp [ClientCall.outcome, ClientCall.target, found]
          · simpa [ClientCall.descriptor, ClientCall.target, found] using unconnected
      | some info =>
          obtain ⟨number, opened, selected⟩ := openFirst_of_some fetched found
          have uses := unconnected.select info number
          rw [selected]
          dsimp only
          by_cases accepted : info.connect = 0
          · rw [if_neg (not_not.mpr accepted)]
            refine ⟨?_, ?_, rfl, rfl, rfl⟩
            · simp [ClientCall.outcome, ClientCall.target, found, accepted]
            · simpa [ClientCall.descriptor, ClientCall.target, found, accepted, opened]
                using uses
          · rw [if_pos accepted]
            refine ⟨?_, ?_, rfl, rfl, rfl⟩
            · simp [ClientCall.outcome, ClientCall.target, found, accepted]
            · simpa [ClientCall.descriptor, ClientCall.target, found, accepted]
                using uses.close

theorem Has.perform (has : client.Has descriptor) (call : ClientCall Address) :
    (client.perform call).1 = call.outcome ∧
      (client.perform call).2.Has call.descriptor ∧
      client.KeepsStreams (client.perform call).2 := by
  cases call with
  | connect server port getaddrinfo => exact has.connect server port getaddrinfo
  | close => exact ⟨rfl, has.close, keepsStreams_close client⟩

/-! ## Runs -/

theorem Has.performAll (has : client.Has descriptor) (calls : List (ClientCall Address)) :
    (client.performAll calls).1 = calls.map ClientCall.outcome ∧
      (client.performAll calls).2.Has
        ((calls.getLast?.map ClientCall.descriptor).getD descriptor) ∧
      client.KeepsStreams (client.performAll calls).2 := by
  induction calls generalizing client descriptor with
  | nil => exact ⟨rfl, has, rfl, rfl, rfl⟩
  | cons call calls ih =>
      obtain ⟨outcome, after, kept⟩ := has.perform call
      obtain ⟨outcomes, final, rest⟩ := ih after
      refine ⟨?_, ?_, rest.input.trans kept.input, rest.output.trans kept.output,
        rest.transmitted.trans kept.transmitted⟩
      · rw [TcpClient.performAll, outcome, outcomes, List.map_cons]
      · rw [TcpClient.performAll]
        cases calls with
        | nil => exact final
        | cons next calls =>
            obtain ⟨last, isLast⟩ : ∃ last, (next :: calls).getLast? = some last :=
              ⟨_, List.getLast?_eq_some_getLast (List.cons_ne_nil next calls)⟩
            rw [List.getLast?_cons_cons, isLast]
            rw [isLast] at final
            exact final

theorem outcome_ne_assertion (call : ClientCall Address) :
    call.outcome ≠ .error .assertion := by
  cases call with
  | close => simp [ClientCall.outcome]
  | connect server port getaddrinfo =>
      cases getaddrinfo with
      | error text => simp [ClientCall.outcome]
      | ok addresses =>
          simp only [ClientCall.outcome]
          split
          · simp
          · split <;> simp

/-- What the calls of a new client come to is decided by the outcomes of their
own system calls.  No `assert` fails, and no descriptor but that of the last
call is open. -/
theorem performAll_new (calls : List (ClientCall Address)) :
    (new.performAll calls).1 = calls.map ClientCall.outcome ∧
      (∀ outcome ∈ (new.performAll calls).1, outcome ≠ .error .assertion) ∧
      (new.performAll calls).2.Has (calls.getLast?.bind ClientCall.descriptor) := by
  obtain ⟨outcomes, final, -⟩ := has_new.performAll calls
  refine ⟨outcomes, ?_, ?_⟩
  · intro outcome member
    rw [outcomes] at member
    obtain ⟨call, -, rfl⟩ := List.mem_map.mp member
    exact outcome_ne_assertion call
  · cases last : calls.getLast? with
    | none => simpa [last] using final
    | some call => simpa [last] using final

end TcpClient

end Concurrente.WebServer
