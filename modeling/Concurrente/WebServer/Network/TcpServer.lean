import Concurrente.Common.Conversions

/-!
# Listening for connections

The server looks for an address of the host that it can bind a socket to.  The
loop over the list of addresses is left in its first round, on every path, so
the addresses behind the first one are never tried.
-/

namespace Concurrente.WebServer

variable {Address : Type*}

/-- An entry of the list of `getaddrinfo`, with what the operating system
answers if the server tries it.  A `socket` of `-1` is none. -/
structure AddressInfo (Address : Type*) where
  address : Address
  socket : Option Nat
  setsockopt : Int
  bind : Int

/-- The address can be used: both calls succeed. -/
def AddressInfo.Works (info : AddressInfo Address) : Prop :=
  info.socket.isSome ∧ info.bind = 0

instance : DecidablePred (@AddressInfo.Works Address) :=
  fun info => inferInstanceAs (Decidable (info.socket.isSome ∧ info.bind = 0))

/-- The members of a server that change while it starts to listen, and the
descriptors the process has open. -/
structure TcpServer (Address : Type*) where
  availableAddresses : List (AddressInfo Address)
  selectedAddress : Option Address
  connectionRequestSocket : Option Nat
  openDescriptors : List Nat

namespace TcpServer

def freeNetworkAddress (server : TcpServer Address) : TcpServer Address :=
  { server with availableAddresses := [] }

def closeSocket (server : TcpServer Address) : TcpServer Address :=
  match server.connectionRequestSocket with
  | none => server
  | some descriptor =>
      { server with
        openDescriptors := server.openDescriptors.erase descriptor
        connectionRequestSocket := none }

/-- The call of `socket` for an address. -/
def openSocket (server : TcpServer Address) (info : AddressInfo Address) :
    TcpServer Address :=
  { server with
    connectionRequestSocket := info.socket
    openDescriptors := info.socket.toList ++ server.openDescriptors }

/-- A round of the loop in `openConnectionRequestSocket`: every path returns or
throws, whatever addresses follow. -/
def tryAddress (info : AddressInfo Address) (server : TcpServer Address) :
    Except StdException Int × TcpServer Address :=
  match info.socket with
  | none => (.ok (-1), server.openSocket info)
  | some _ =>
      if info.setsockopt ≠ 0 then
        (.error (.runtimeError "could not set reusing socket".toList),
          server.openSocket info)
      else if info.bind = 0 then
        (.ok info.bind,
          { server.openSocket info with selectedAddress := some info.address })
      else (.ok (-1), (server.openSocket info).closeSocket)

/-- `TcpServer::openConnectionRequestSocket` of a server that has no socket yet:
its result, or what it throws, and the server it leaves. -/
def openConnectionRequestSocket (port : Text) (server : TcpServer Address) :
    Except StdException Int × TcpServer Address :=
  match server.availableAddresses with
  | [] =>
      (.error (.runtimeError ("no available addresses for port ".toList ++ port)),
        { server with connectionRequestSocket := none }.freeNetworkAddress)
  | info :: _ => server.tryAddress info

/-- `TcpServer::fetchAvailableAddresses`, with the list of `getaddrinfo` or the
text of its error. -/
def fetchAvailableAddresses (getaddrinfo : Except Text (List (AddressInfo Address)))
    (server : TcpServer Address) : Except StdException Unit × TcpServer Address :=
  match getaddrinfo with
  | .ok addresses => (.ok (), { server with availableAddresses := addresses })
  | .error text =>
      (.error (.runtimeError ("getaddrinfo: ".toList ++ text)),
        server.freeNetworkAddress)

/-- `TcpServer::listenForConnections`, with the result of `listen`. -/
def listenForConnections (port : Text)
    (getaddrinfo : Except Text (List (AddressInfo Address))) (listen : Int)
    (server : TcpServer Address) : Except StdException Unit × TcpServer Address :=
  match server.fetchAvailableAddresses getaddrinfo with
  | (.error exception, server) => (.error exception, server)
  | (.ok _, server) =>
      match server.openConnectionRequestSocket port with
      | (.error exception, server) => (.error exception, server)
      | (.ok error, server) =>
          if (if error = 0 then listen else error) = 0 then (.ok (), server)
          else
            (.error (.runtimeError ("could not listen port ".toList ++ port)),
              server.closeSocket.freeNetworkAddress)

/-! ## What is expected -/

/-- No descriptor of the server is left open. -/
structure Released (before after : TcpServer Address) : Prop where
  closed : after.connectionRequestSocket = none
  descriptors : after.openDescriptors = before.openDescriptors

/-- The server uses an address, and only its descriptor was opened. -/
structure Uses (before : TcpServer Address) (info : AddressInfo Address)
    (after : TcpServer Address) : Prop where
  selected : after.selectedAddress = some info.address
  bound : after.connectionRequestSocket = info.socket
  descriptors : after.openDescriptors = info.socket.toList ++ before.openDescriptors

/-- An outcome of the search: the first address that works is used, and it
fails only without one. -/
def SelectsFirst (before : TcpServer Address)
    (outcome : Except StdException Int × TcpServer Address) : Prop :=
  match before.availableAddresses.find? fun info => info.Works with
  | some info => outcome.1 = .ok 0 ∧ before.Uses info outcome.2
  | none => outcome.1 ≠ .ok 0 ∧ before.Released outcome.2

/-- `setsockopt` succeeds for every address. -/
def Reusable (server : TcpServer Address) : Prop :=
  ∀ info ∈ server.availableAddresses, info.setsockopt = 0

/-! ## The search -/

/-- Closing undoes opening, whichever descriptor it was. -/
theorem released_closeSocket {before after : TcpServer Address} {socket : Option Nat}
    (bound : after.connectionRequestSocket = socket)
    (descriptors : after.openDescriptors = socket.toList ++ before.openDescriptors) :
    before.Released after.closeSocket := by
  rw [closeSocket, bound]
  cases socket with
  | none => exact ⟨bound, descriptors⟩
  | some descriptor =>
      constructor
      · rfl
      · simp [descriptors]

theorem released_of_no_socket {server : TcpServer Address} {info : AddressInfo Address}
    (none : info.socket = none) : server.Released (server.openSocket info) := by
  constructor
  · exact none
  · simp [openSocket, none]

section Round

variable (server : TcpServer Address) {info : AddressInfo Address}
  (reusable : info.setsockopt = 0)

include reusable

theorem tryAddress_of_works (works : info.Works) :
    ∃ after, server.tryAddress info = (.ok 0, after) ∧ server.Uses info after := by
  obtain ⟨opened, bound⟩ := works
  obtain ⟨descriptor, opened⟩ := Option.isSome_iff_exists.mp opened
  refine ⟨{ server.openSocket info with selectedAddress := some info.address },
    ?_, ⟨rfl, rfl, rfl⟩⟩
  simp [tryAddress, opened, reusable, bound]

theorem tryAddress_of_not_works (fails : ¬ info.Works) :
    ∃ after, server.tryAddress info = (.ok (-1), after) ∧ server.Released after := by
  cases opened : info.socket with
  | none =>
      refine ⟨_, ?_, released_of_no_socket opened⟩
      simp [tryAddress, opened]
  | some descriptor =>
      have unbound : info.bind ≠ 0 := by
        intro bound
        exact fails ⟨by simp [opened], bound⟩
      refine ⟨(server.openSocket info).closeSocket, ?_, released_closeSocket rfl rfl⟩
      simp [tryAddress, opened, reusable, unbound]

end Round

/-- The server finds the address it should use exactly if the first address
works or none does. -/
theorem selectsFirst_iff (port : Text) {server : TcpServer Address}
    (reusable : server.Reusable) :
    server.SelectsFirst (server.openConnectionRequestSocket port) ↔
      (∃ info ∈ server.availableAddresses.head?, info.Works) ∨
        ∀ info ∈ server.availableAddresses, ¬ info.Works := by
  unfold SelectsFirst openConnectionRequestSocket
  cases addresses : server.availableAddresses with
  | nil =>
      simp only [List.find?_nil, List.not_mem_nil, false_implies, implies_true, or_true,
        iff_true]
      exact ⟨by simp, ⟨rfl, rfl⟩⟩
  | cons info others =>
      have first : info ∈ server.availableAddresses := by simp [addresses]
      dsimp only
      by_cases works : info.Works
      · obtain ⟨after, tried, uses⟩ :=
          tryAddress_of_works server (reusable info first) works
        simp [tried, works, uses]
      · obtain ⟨after, tried, released⟩ :=
          tryAddress_of_not_works server (reusable info first) works
        rw [tried]
        cases found : (info :: others).find? fun info => info.Works with
        | none =>
            have none : ∀ other ∈ info :: others, ¬ other.Works := by
              simpa using found
            constructor
            · intro _
              exact .inr none
            · intro _
              exact ⟨by simp, released⟩
        | some other =>
            have member := List.mem_of_find?_eq_some found
            have otherWorks : other.Works := by simpa using List.find?_some found
            constructor
            · intro selects
              exact absurd selects.1 (by simp)
            · rintro (⟨other', isFirst, works'⟩ | none)
              · obtain rfl := Option.mem_some_iff.mp isFirst
                exact absurd works' works
              · exact absurd otherWorks (none other member)

/-- A host without the first protocol, as where IPv6 is turned off. -/
def withoutFirst : TcpServer String :=
  { availableAddresses :=
      [{ address := "::", socket := none, setsockopt := 0, bind := 0 },
        { address := "0.0.0.0", socket := some 3, setsockopt := 0, bind := 0 }]
    selectedAddress := none
    connectionRequestSocket := none
    openDescriptors := [2, 1, 0] }

/-- A host with both protocols. -/
def withBoth : TcpServer String :=
  { withoutFirst with
    availableAddresses :=
      [{ address := "::", socket := some 3, setsockopt := 0, bind := 0 },
        { address := "0.0.0.0", socket := some 4, setsockopt := 0, bind := 0 }] }

theorem selectsFirst_withBoth :
    withBoth.SelectsFirst (withBoth.openConnectionRequestSocket "8080".toList) ∧
      (withBoth.openConnectionRequestSocket "8080".toList).2.selectedAddress = some "::" := by
  constructor
  · apply (selectsFirst_iff _ (by simp [Reusable, withBoth])).mpr
    exact .inl ⟨_, rfl, by decide⟩
  · rfl

/-- The second address works, and is not tried. -/
theorem not_selectsFirst_withoutFirst :
    (withoutFirst.openConnectionRequestSocket "8080".toList).1 = .ok (-1) ∧
      ¬ withoutFirst.SelectsFirst
        (withoutFirst.openConnectionRequestSocket "8080".toList) := by
  have outcome : (withoutFirst.openConnectionRequestSocket "8080".toList).1 =
      .ok (-1) := rfl
  refine ⟨outcome, ?_⟩
  intro selects
  have found : withoutFirst.availableAddresses.find? (fun info => info.Works) =
      some { address := "0.0.0.0", socket := some 3, setsockopt := 0, bind := 0 } :=
    rfl
  rw [SelectsFirst, found] at selects
  rw [outcome] at selects
  exact absurd selects.1 (by simp)

/-! ## Listening -/

theorem released_freeNetworkAddress {before after : TcpServer Address}
    (released : before.Released after) : before.Released after.freeNetworkAddress :=
  ⟨released.closed, released.descriptors⟩

/-- Closing a server without a socket changes nothing. -/
theorem Released.closeSocket {before after : TcpServer Address}
    (released : before.Released after) : before.Released after.closeSocket := by
  rw [TcpServer.closeSocket, released.closed]
  exact released

/-- A server listens at the first address of the host, or it is left without a
socket and with the descriptors it had. -/
theorem listenForConnections_cases (server : TcpServer Address) (port : Text)
    (listen : Int) {addresses : List (AddressInfo Address)}
    (reusable : ∀ info ∈ addresses, info.setsockopt = 0) :
    ((server.listenForConnections port (.ok addresses) listen).1 = .ok () ∧
        ∃ info ∈ addresses.head?, info.Works ∧
          server.Uses info (server.listenForConnections port (.ok addresses) listen).2) ∨
      (∃ exception, (server.listenForConnections port (.ok addresses) listen).1 =
          .error exception) ∧
        server.Released (server.listenForConnections port (.ok addresses) listen).2 := by
  unfold listenForConnections fetchAvailableAddresses openConnectionRequestSocket
  cases addresses with
  | nil => exact .inr ⟨⟨_, rfl⟩, rfl, rfl⟩
  | cons info others =>
      have reusable := reusable info List.mem_cons_self
      let fetched := { server with availableAddresses := info :: others }
      by_cases works : info.Works
      · obtain ⟨after, tried, uses⟩ := tryAddress_of_works fetched reusable works
        have uses : server.Uses info after :=
          ⟨uses.selected, uses.bound, uses.descriptors⟩
        simp only [fetched] at tried
        simp only [tried]
        by_cases listens : listen = 0
        · simp [listens, works, uses]
        · have released := released_freeNetworkAddress
            (released_closeSocket uses.bound uses.descriptors)
          simp [listens, released]
      · obtain ⟨after, tried, released⟩ :=
          tryAddress_of_not_works fetched reusable works
        have released : server.Released after := ⟨released.closed, released.descriptors⟩
        have released := released_freeNetworkAddress released.closeSocket
        simp only [fetched] at tried
        simp [tried, released]

end TcpServer

end Concurrente.WebServer
