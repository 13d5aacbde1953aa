import Concurrente.WebServer.Http.ServerLifecycle

/-!
# The process of a master

The main thread of a master executes one statement after another, and waits
where a thread has not ended, a queue is full or no client comes.  The master
server, the other threads and signals go on between any two of its statements.
A signal stops the listener of the server and then, through a pointer, that of
the master server.
-/

namespace Concurrente.WebServer

open Library

/-- The socket a server listens with. -/
inductive Listener where
  | unopened
  | listening
  | stopped
  deriving DecidableEq, Repr

/-- `TcpServer::stopListening`.  A socket that does not listen yet is left as it
is, and listens later. -/
def Listener.stopListening : Listener → Listener
  | .unopened => .unopened
  | _ => .stopped

theorem Listener.stopListening_ne_unopened (listener : Listener)
    (opened : listener ≠ .unopened) : listener.stopListening ≠ .unopened := by
  cases listener with
  | unopened => exact absurd rfl opened
  | _ => simp [stopListening]

/-- The place of a master server in `MasterServer::run`. -/
inductive MasterPhase where
  | starting
  | accepting
  | serving
  | stopping
  | ended
  deriving DecidableEq, Repr

/-- What a master server does next. -/
inductive MasterAction where
  | listen
  | accept
  | serve
  /-- `accept` fails, as the listener was stopped. -/
  | leave
  /-- It cannot listen, or `accept` fails while it does. -/
  | fail
  | stop
  deriving DecidableEq, Repr

/-- A step of `MasterServer::run`, with the listener before and after it. -/
def MasterPhase.step (listener : Listener) :
    MasterPhase → MasterAction → Option (MasterPhase × Listener)
  | .starting, .listen => some (.accepting, .listening)
  | .starting, .fail => some (.stopping, listener)
  | .accepting, .accept =>
      if listener = .listening then some (.serving, listener) else none
  | .accepting, .fail =>
      if listener = .listening then some (.stopping, listener) else none
  | .accepting, .leave =>
      if listener = .stopped then some (.stopping, listener) else none
  | .serving, .serve => some (.accepting, listener)
  | .stopping, .stop => some (.ended, listener)
  | _, _ => none

/-- The thread is on its way out of `MasterServer::run`. -/
def MasterPhase.Leaving (phase : MasterPhase) : Prop :=
  phase = .stopping ∨ phase = .ended

theorem MasterPhase.stopped_of_step {listener next : Listener} {phase later : MasterPhase}
    {action : MasterAction} (moved : phase.step listener action = some (later, next))
    (stopped : next = .stopped) : listener = .stopped := by
  unfold MasterPhase.step at moved
  split at moved <;> (try split at moved) <;> cases moved <;>
    first | exact stopped | cases stopped

/-- A master server leaves because of a failure, or as its listener is stopped. -/
theorem MasterPhase.leaving_of_step {listener next : Listener} {phase later : MasterPhase}
    {action : MasterAction} (moved : phase.step listener action = some (later, next))
    (inside : ¬phase.Leaving) (leaving : later.Leaving) :
    action = .fail ∨ listener = .stopped := by
  cases phase with
  | starting =>
      cases action <;> cases moved
      · rcases leaving with same | same <;> cases same
      · exact .inl rfl
  | accepting =>
      cases action <;> simp only [MasterPhase.step] at moved
      case leave =>
        split at moved
        case isTrue stopped => exact .inr stopped
        case isFalse => cases moved
      case fail => exact .inl rfl
      case accept =>
        split at moved <;> cases moved
        rcases leaving with same | same <;> cases same
      all_goals cases moved
  | serving =>
      cases action <;> cases moved
      rcases leaving with same | same <;> cases same
  | stopping => exact absurd (.inl rfl) inside
  | ended => exact absurd (.inr rfl) inside

/-- What the main thread of a master does, in `HttpServer::run`. -/
inductive Instruction (config : Configuration) where
  | listenForConnections
  | acceptAllConnections
  | statement (statement : HttpServer.MasterStatement config)
  deriving DecidableEq

/-- What happens in the process of a master. -/
inductive MasterEvent (config : Configuration) where
  /-- The main thread goes on. -/
  | proceed
  | cannotListen
  /-- The main thread accepts a client. -/
  | client
  /-- `accept` of the main thread fails while its listener is open. -/
  | cannotAccept
  /-- A connection handler takes a client, or its stop condition. -/
  | dequeue
  | ends (thread : MasterThread config)
  /-- `HttpServer::stop` begins: it stops the listener of the server. -/
  | signal
  /-- `HttpServer::stop` goes on with the master server. -/
  | signalled
  | masterServer (action : MasterAction)

/-- Why an event does not happen: there is no such event now, or it ends the
process. -/
inductive Halt where
  | impossible
  | fault (fault : TeamFault)
  deriving DecidableEq, Repr

/-- The process of a master. -/
structure MasterProcess (config : Configuration) where
  /-- What the main thread has still to do. -/
  rest : List (Instruction config)
  team : ThreadTeam (MasterThread config) ServerQueue
  listener : Listener
  /-- The number of elements of `socketsQueue`. -/
  sockets : Nat
  /-- The threads that have ended, but for the master server. -/
  ended : MasterThread config → Bool
  masterServer : MasterPhase
  masterListener : Listener
  /-- The signals on whose account `HttpServer::stop` has begun. -/
  signals : Nat

namespace MasterProcess

variable {config : Configuration} (queuesCapacity : Nat)

/-- `HttpServer::run` of a master. -/
def program (config : Configuration) (queuesCapacity : Nat) : List (Instruction config) :=
  .listenForConnections ::
    ((HttpServer.buildMaster config queuesCapacity).map .statement ++
      .acceptAllConnections :: (HttpServer.stopServer config).map .statement)

/-- A master that has been told to run. -/
def start (config : Configuration) (queuesCapacity : Nat) : MasterProcess config :=
  { rest := program config queuesCapacity
    team := .empty
    listener := .unopened
    sockets := 0
    ended := fun _ => false
    masterServer := .starting
    masterListener := .unopened
    signals := 0 }

def hasEnded (process : MasterProcess config) : MasterThread config → Bool
  | .masterServer => decide (process.masterServer = .ended)
  | thread => process.ended thread

/-- The thread was started and is not joined. -/
def isRunning (process : MasterProcess config) (thread : MasterThread config) : Bool :=
  match process.team.threads thread with
  | .object object => object.started
  | _ => false

/-- A statement that has to wait: for the end of a thread, or for room. -/
def blocked (process : MasterProcess config) :
    HttpServer.MasterStatement config → Bool
  | .waitToFinish thread => !process.hasEnded thread
  | .waitToFinishInVector thread =>
      decide (process.team.threads thread ≠ .null) && !process.hasEnded thread
  | .enqueue .socketsQueue => decide (queuesCapacity ≤ process.sockets)
  | _ => false

/-- The main thread goes on. -/
def proceed (process : MasterProcess config) : Except Halt (MasterProcess config) :=
  match process.rest with
  | [] => .error .impossible
  | .listenForConnections :: rest => .ok { process with rest, listener := .listening }
  | .acceptAllConnections :: rest =>
      if process.listener = .stopped then .ok { process with rest }
      else .error .impossible
  | .statement statement :: rest =>
      match statement.step process.team with
      | .error fault => .error (.fault fault)
      | .ok team =>
          if process.blocked queuesCapacity statement then .error .impossible
          else
            .ok { process with
              rest
              team
              sockets :=
                if statement = .enqueue .socketsQueue then process.sockets + 1
                else process.sockets }

/-- The second statement of `HttpServer::stop`. -/
def stopMasterServer (process : MasterProcess config) :
    Except Halt (MasterProcess config) :=
  if process.signals = 0 then .error .impossible
  else
    match process.team.threads .masterServer with
    | .null => .error (.fault .nullPointer)
    | .dangling => .error (.fault .dangling)
    | .object _ =>
        .ok { process with
          masterListener := process.masterListener.stopListening
          signals := process.signals - 1 }

/-- An event in the process. -/
def step (event : MasterEvent config) (process : MasterProcess config) :
    Except Halt (MasterProcess config) :=
  match event with
  | .proceed => process.proceed queuesCapacity
  | .cannotListen =>
      match process.rest with
      | .listenForConnections :: _ =>
          .ok { process with rest := (HttpServer.stopServer config).map .statement }
      | _ => .error .impossible
  | .client =>
      match process.rest with
      | .acceptAllConnections :: rest =>
          if process.listener = .listening then
            .ok { process with
              rest := .statement (.enqueue .socketsQueue) :: .acceptAllConnections :: rest }
          else .error .impossible
      | _ => .error .impossible
  | .cannotAccept =>
      match process.rest with
      | .acceptAllConnections :: rest =>
          if process.listener = .listening then .ok { process with rest }
          else .error .impossible
      | _ => .error .impossible
  | .dequeue =>
      if process.sockets = 0 then .error .impossible
      else .ok { process with sockets := process.sockets - 1 }
  | .ends thread =>
      if process.isRunning thread then
        .ok { process with ended := Function.update process.ended thread true }
      else .error .impossible
  | .signal =>
      .ok { process with
        listener := process.listener.stopListening
        signals := process.signals + 1 }
  | .signalled => process.stopMasterServer
  | .masterServer action =>
      if process.isRunning .masterServer then
        match process.masterServer.step process.masterListener action with
        | some (masterServer, masterListener) =>
            .ok { process with masterServer, masterListener }
        | none => .error .impossible
      else .error .impossible

/-! ## What the main thread has done -/

/-- The statements among what the main thread has still to do. -/
def statements : List (Instruction config) → List (HttpServer.MasterStatement config) :=
  List.filterMap fun instruction =>
    match instruction with
    | .statement statement => some statement
    | _ => none

@[simp] theorem statements_map (program : List (HttpServer.MasterStatement config)) :
    statements (program.map .statement) = program := by
  simp [statements, List.filterMap_map]

/-- The thread a statement waits for. -/
def awaited : HttpServer.MasterStatement config → Option (MasterThread config)
  | .waitToFinish thread | .waitToFinishInVector thread => some thread
  | _ => none

/-- Every thread is joined. -/
theorem exists_join (thread : MasterThread config) :
    ∃ statement ∈ HttpServer.joinThreads config, awaited statement = some thread := by
  cases thread with
  | handler index =>
      exact ⟨.waitToFinishInVector (.handler index),
        by simp [HttpServer.joinThreads, HttpServer.handlers], rfl⟩
  | calculator index =>
      exact ⟨.waitToFinish (.calculator index),
        by simp [HttpServer.joinThreads, HttpServer.calculators], rfl⟩
  | workerConnectionHandler index =>
      exact ⟨.waitToFinish (.workerConnectionHandler index),
        by simp [HttpServer.joinThreads, HttpServer.workerConnectionHandlers], rfl⟩
  | _ => exact ⟨.waitToFinish _, by simp [HttpServer.joinThreads], rfl⟩

/-- Where the main thread can be, with the statements it has executed and the
listener: at its start; while it builds its threads or accepts clients; while it
stops; and in `stopServer` when it could not listen. -/
inductive Position (queuesCapacity : Nat) :
    List (HttpServer.MasterStatement config) → List (Instruction config) → Listener → Prop
  | start : Position queuesCapacity [] (program config queuesCapacity) .unopened
  | build {done later : List (HttpServer.MasterStatement config)} {clients : Nat}
      {listener : Listener} (opened : listener ≠ .unopened)
      (whole : done ++ later = HttpServer.buildMaster config queuesCapacity ++
        List.replicate clients (.enqueue .socketsQueue)) :
      Position queuesCapacity done
        (later.map .statement ++
          .acceptAllConnections :: (HttpServer.stopServer config).map .statement) listener
  | stop {first later : List (HttpServer.MasterStatement config)} (clients : Nat)
      {listener : Listener} (opened : listener ≠ .unopened)
      (whole : first ++ later = HttpServer.stopServer config) :
      Position queuesCapacity
        (HttpServer.buildMaster config queuesCapacity ++
          (List.replicate clients (.enqueue .socketsQueue) ++ first))
        (later.map .statement) listener
  | failed :
      Position queuesCapacity [] ((HttpServer.stopServer config).map .statement) .unopened

/-- What holds in every state of a run: the main thread has executed what comes
before its position, and the threads it has joined have ended. -/
structure Sound (process : MasterProcess config)
    (done : List (HttpServer.MasterStatement config)) : Prop where
  position : Position queuesCapacity done process.rest process.listener
  executed : execute Statement.step done .empty = .ok process.team
  joined : ∀ statement ∈ done, ∀ thread, awaited statement = some thread →
    process.hasEnded thread = true

variable {queuesCapacity}

/-- A main thread that listens is somewhere in its program. -/
theorem Position.exists_run {done : List (HttpServer.MasterStatement config)}
    {rest : List (Instruction config)} {listener : Listener}
    (position : Position queuesCapacity done rest listener)
    (opened : listener ≠ .unopened) :
    ∃ clients, done ++ statements rest = HttpServer.run config queuesCapacity clients := by
  cases position with
  | start => exact absurd rfl opened
  | @build done later clients listener _ whole =>
      refine ⟨clients, ?_⟩
      rw [HttpServer.run, ← List.append_assoc, ← whole, statements, List.filterMap_append,
        ← statements, statements_map, List.append_assoc]
      congr 2
      exact statements_map _
  | stop clients _ whole =>
      refine ⟨clients, ?_⟩
      rw [statements_map, HttpServer.run, ← whole, List.append_assoc, List.append_assoc]
  | failed => exact absurd rfl opened

theorem awaited_of_mem_buildMaster :
    ∀ statement ∈ HttpServer.buildMaster config queuesCapacity, awaited statement = none := by
  simp only [HttpServer.buildMaster, HttpServer.createThreads, HttpServer.createQueues,
    HttpServer.connectQueues, HttpServer.startThreads, List.flatten_cons, List.flatten_nil,
    List.forall_mem_append, List.forall_mem_flatMap, List.forall_mem_cons,
    List.not_mem_nil, false_implies, awaited, implies_true, and_self]

theorem awaited_of_mem_deleteThreads :
    ∀ statement ∈ HttpServer.deleteThreads config, awaited statement = none := by
  simp only [HttpServer.deleteThreads, List.flatten_cons, List.flatten_nil,
    List.forall_mem_append, List.forall_mem_flatMap, List.forall_mem_cons,
    List.not_mem_nil, false_implies, awaited, implies_true, and_self]

theorem quiet_of_mem_joinThreads (thread : MasterThread config) :
    ∀ statement ∈ HttpServer.joinThreads config, statement.Quiet thread := by
  have stops : ∀ statement ∈ List.replicate config.maxConnections
      (Statement.enqueue ServerQueue.socketsQueue : HttpServer.MasterStatement config),
        statement.Quiet thread := by
    intro statement member
    rw [(List.mem_replicate.mp member).2]
    exact fun _ => rfl
  simp only [HttpServer.joinThreads, List.flatten_cons, List.flatten_nil,
    List.forall_mem_append, List.forall_mem_flatMap, List.forall_mem_cons,
    List.not_mem_nil, false_implies, implies_true, and_true]
  exact ⟨stops, fun _ _ _ => rfl, fun _ => rfl, fun _ => rfl, fun _ _ _ => rfl,
    fun _ => rfl, fun _ _ _ => rfl, fun _ => rfl, fun _ => rfl⟩

/-- The threads are joined before any of them is deleted. -/
theorem present_of_join {clients : Nat} {first later : List (HttpServer.MasterStatement config)}
    {statement : HttpServer.MasterStatement config}
    {thread : MasterThread config}
    {team : ThreadTeam (MasterThread config) ServerQueue}
    (whole : first ++ statement :: later = HttpServer.stopServer config)
    (waits : awaited statement = some thread)
    (executed : execute Statement.step (HttpServer.buildMaster config queuesCapacity ++
      (List.replicate clients (.enqueue .socketsQueue) ++ first)) .empty = .ok team) :
    (team.threads thread).status = .object := by
  have joining : first ⊆ HttpServer.joinThreads config := by
    rcases List.append_eq_append_iff.mp whole with ⟨more, joins, _⟩ | ⟨deletions, rfl, rest⟩
    · rw [joins]
      exact List.subset_append_left first more
    · have member : statement ∈ HttpServer.deleteThreads config := by
        rw [rest]
        simp
      rw [awaited_of_mem_deleteThreads statement member] at waits
      cases waits
  have quiet : ∀ statement ∈ List.replicate clients (.enqueue .socketsQueue) ++ first,
      statement.Quiet thread := by
    intro statement member
    rcases List.mem_append.mp member with client | join
    · rw [(List.mem_replicate.mp client).2]
      exact fun _ => rfl
    · exact quiet_of_mem_joinThreads thread statement (joining join)
  rw [execute_append (HttpServer.buildMaster_execute queuesCapacity)] at executed
  rw [status_of_execute thread executed, statusAfter_of_quiet quiet]
  rfl

/-! ## Steps of the main thread -/

section Positions

variable {done : List (HttpServer.MasterStatement config)} {rest : List (Instruction config)}
  {listener : Listener}

theorem Position.of_unopened (position : Position queuesCapacity done rest listener)
    (unopened : listener = .unopened) :
    done = [] ∧ (rest = program config queuesCapacity ∨
      rest = (HttpServer.stopServer config).map .statement) := by
  cases position with
  | start => exact ⟨rfl, .inl rfl⟩
  | build opened _ => exact absurd unopened opened
  | stop _ opened _ => exact absurd unopened opened
  | failed => exact ⟨rfl, .inr rfl⟩

theorem Position.of_nil (position : Position queuesCapacity done [] listener) :
    ∃ clients, done = HttpServer.run config queuesCapacity clients := by
  generalize here : ([] : List (Instruction config)) = place at position
  cases position with
  | start => cases here
  | @build done later => cases later <;> cases here
  | @stop first later clients listener opened whole =>
      cases later with
      | nil =>
          rw [List.append_nil] at whole
          exact ⟨clients, by rw [HttpServer.run, whole]⟩
      | cons => cases here
  | failed =>
      obtain ⟨first, later, begins, _⟩ := HttpServer.stopServer_execute_empty config
      rw [begins] at here
      cases here

theorem Position.of_listenForConnections
    (position : Position queuesCapacity done (.listenForConnections :: rest) listener) :
    done = [] ∧ listener = .unopened ∧
      rest = (HttpServer.buildMaster config queuesCapacity).map .statement ++
        .acceptAllConnections :: (HttpServer.stopServer config).map .statement := by
  generalize here : Instruction.listenForConnections :: rest = place at position
  cases position with
  | start =>
      cases here
      exact ⟨rfl, rfl, rfl⟩
  | @build done later clients listener opened whole => cases later <;> cases here
  | @stop first later clients listener opened whole => cases later <;> cases here
  | failed =>
      have member : Instruction.listenForConnections ∈
          (HttpServer.stopServer config).map .statement := by
        rw [← here]
        exact List.mem_cons_self
      simp at member

theorem Position.of_acceptAllConnections
    (position : Position queuesCapacity done (.acceptAllConnections :: rest) listener) :
    listener ≠ .unopened ∧ rest = (HttpServer.stopServer config).map .statement ∧
      ∃ clients, done = HttpServer.buildMaster config queuesCapacity ++
        List.replicate clients (.enqueue .socketsQueue) := by
  generalize here : Instruction.acceptAllConnections :: rest = place at position
  cases position with
  | start => cases here
  | @build done later clients listener opened whole =>
      cases later with
      | nil =>
          cases here
          rw [List.append_nil] at whole
          exact ⟨opened, rfl, clients, whole⟩
      | cons => cases here
  | @stop first later clients listener opened whole => cases later <;> cases here
  | failed =>
      have member : Instruction.acceptAllConnections ∈
          (HttpServer.stopServer config).map .statement := by
        rw [← here]
        exact List.mem_cons_self
      simp at member

/-- A statement is next: the main thread stops after a failure to listen, or goes
on with the statement, and a thread it waits for exists. -/
theorem Position.of_statement {statement : HttpServer.MasterStatement config}
    (position : Position queuesCapacity done (.statement statement :: rest) listener) :
    (listener = .unopened ∧ done = [] ∧
        .statement statement :: rest = (HttpServer.stopServer config).map .statement) ∨
      listener ≠ .unopened ∧
        Position queuesCapacity (done ++ [statement]) rest listener ∧
        ∀ thread, awaited statement = some thread →
          ∀ team, execute Statement.step done .empty = .ok team →
            (team.threads thread).status = .object := by
  generalize here : Instruction.statement statement :: rest = place at position
  cases position with
  | start => cases here
  | @build done later clients listener opened whole =>
      cases later with
      | nil => cases here
      | cons next later =>
          cases here
          have after : (done ++ [statement]) ++ later =
              HttpServer.buildMaster config queuesCapacity ++
                List.replicate clients (.enqueue .socketsQueue) := by
            simpa using whole
          refine .inr ⟨opened, .build opened after, ?_⟩
          intro thread waits
          have member : statement ∈ HttpServer.buildMaster config queuesCapacity ++
              List.replicate clients (.enqueue .socketsQueue) := by
            rw [← whole]
            simp
          rcases List.mem_append.mp member with built | client
          · rw [awaited_of_mem_buildMaster statement built] at waits
            cases waits
          · rw [(List.mem_replicate.mp client).2] at waits
            cases waits
  | @stop first later clients listener opened whole =>
      cases later with
      | nil => cases here
      | cons next later =>
          cases here
          refine .inr ⟨opened, ?_, fun thread waits team => present_of_join whole waits⟩
          rw [List.append_assoc, List.append_assoc]
          exact .stop clients opened (by simpa using whole)
  | failed => exact .inl ⟨rfl, rfl, rfl⟩

/-- The main thread has accepted a client. -/
theorem Position.client
    (position : Position queuesCapacity done (.acceptAllConnections :: rest) listener) :
    Position queuesCapacity done
      (.statement (.enqueue .socketsQueue) :: .acceptAllConnections :: rest) listener := by
  obtain ⟨opened, rfl, clients, rfl⟩ := position.of_acceptAllConnections
  have whole : HttpServer.buildMaster config queuesCapacity ++
      List.replicate clients (.enqueue .socketsQueue) ++ [.enqueue .socketsQueue] =
        HttpServer.buildMaster config queuesCapacity ++
          List.replicate (clients + 1) (.enqueue .socketsQueue) := by
    rw [List.replicate_succ', List.append_assoc]
  exact .build opened whole

/-- The main thread accepts no more clients. -/
theorem Position.leave
    (position : Position queuesCapacity done (.acceptAllConnections :: rest) listener) :
    Position queuesCapacity done rest listener := by
  obtain ⟨opened, rfl, clients, rfl⟩ := position.of_acceptAllConnections
  have stopping : Position queuesCapacity (HttpServer.buildMaster config queuesCapacity ++
      (List.replicate clients (.enqueue .socketsQueue) ++ []))
        ((HttpServer.stopServer config).map .statement) listener :=
    .stop clients opened rfl
  rwa [List.append_nil] at stopping

theorem Position.stopListening (position : Position queuesCapacity done rest listener) :
    Position queuesCapacity done rest listener.stopListening := by
  cases position with
  | start => exact .start
  | build opened whole => exact .build (listener.stopListening_ne_unopened opened) whole
  | stop clients opened whole =>
      exact .stop clients (listener.stopListening_ne_unopened opened) whole
  | failed => exact .failed

end Positions

section Steps

variable {process next : MasterProcess config}
  {done : List (HttpServer.MasterStatement config)}

/-- A main thread that listened does not fail. -/
theorem Sound.exists_step (sound : Sound queuesCapacity process done)
    {statement : HttpServer.MasterStatement config} {rest : List (Instruction config)}
    (opened : process.listener ≠ .unopened) (here : process.rest = .statement statement :: rest) :
    ∃ team, statement.step process.team = .ok team := by
  obtain ⟨clients, whole⟩ := sound.position.exists_run opened
  have program : (done ++ [statement]) ++ statements rest =
      HttpServer.run config queuesCapacity clients := by
    rw [← whole, here]
    simp [statements]
  have ends : execute Statement.step (HttpServer.run config queuesCapacity clients) .empty = _ :=
    HttpServer.run_execute queuesCapacity clients
  rw [← program] at ends
  obtain ⟨team, reached⟩ := execute_of_append ends
  rw [execute_append sound.executed] at reached
  cases result : statement.step process.team with
  | ok after => exact ⟨after, rfl⟩
  | error fault =>
      rw [execute_cons_error result] at reached
      cases reached

/-- A main thread that could not listen has nothing to join. -/
theorem failed_of_stopping {statement : HttpServer.MasterStatement config}
    {rest : List (Instruction config)}
    (nothing : execute Statement.step [] .empty = .ok process.team)
    (stopping : .statement statement :: rest = (HttpServer.stopServer config).map .statement) :
    statement.step process.team = .error .nullPointer := by
  obtain ⟨first, later, begins, fails⟩ :=
    HttpServer.stopServer_execute_empty config
  rw [begins, List.map_cons] at stopping
  cases stopping
  rw [execute_nil] at nothing
  rwa [← Except.ok.inj nothing]

/-- A statement that does not wait for a thread finds that it has ended. -/
theorem hasEnded_of_free {statement : HttpServer.MasterStatement config}
    {thread : MasterThread config} (waits : awaited statement = some thread)
    (present : (process.team.threads thread).status = .object)
    (free : process.blocked queuesCapacity statement = false) :
    process.hasEnded thread = true := by
  have notNull : process.team.threads thread ≠ .null := by
    intro null
    rw [null] at present
    cases present
  cases statement with
  | waitToFinish other =>
      cases waits
      simpa [blocked] using free
  | waitToFinishInVector other =>
      cases waits
      simpa [blocked, notNull] using free
  | _ => cases waits

theorem proceed_cases (happens : process.proceed queuesCapacity = .ok next) :
    (∃ rest, process.rest = .listenForConnections :: rest ∧
        next = { process with rest, listener := .listening }) ∨
      (∃ rest, process.rest = .acceptAllConnections :: rest ∧
        process.listener = .stopped ∧ next = { process with rest }) ∨
      ∃ statement rest team sockets, process.rest = .statement statement :: rest ∧
        statement.step process.team = .ok team ∧
        process.blocked queuesCapacity statement = false ∧
        next = { process with rest, team, sockets } := by
  unfold proceed at happens
  split at happens
  · cases happens
  · rename_i rest here
    cases happens
    exact .inl ⟨rest, here, rfl⟩
  · rename_i rest here
    split at happens
    case isTrue stopped =>
      cases happens
      exact .inr (.inl ⟨rest, here, stopped, rfl⟩)
    case isFalse => cases happens
  · rename_i statement rest here
    cases result : statement.step process.team with
    | error fault => simp [result] at happens
    | ok team =>
        simp only [result] at happens
        split at happens
        case isTrue => cases happens
        case isFalse free =>
          cases happens
          exact .inr (.inr ⟨statement, rest, team, _, here, result,
            Bool.not_eq_true _ ▸ free, rfl⟩)

/-- A client is accepted, or the main thread stops accepting. -/
theorem accept_cases {event : MasterEvent config}
    (accepts : event = .client ∨ event = .cannotAccept)
    (happens : step queuesCapacity event process = .ok next) :
    ∃ rest, process.rest = .acceptAllConnections :: rest ∧ process.listener = .listening ∧
      (next = { process with
          rest := .statement (.enqueue .socketsQueue) :: .acceptAllConnections :: rest } ∨
        next = { process with rest }) := by
  rcases accepts with rfl | rfl <;>
    · simp only [step] at happens
      split at happens
      · rename_i rest here
        split at happens
        case isTrue listening =>
          cases happens
          refine ⟨rest, here, listening, ?_⟩
          simp
        case isFalse => cases happens
      · cases happens

theorem masterServer_cases {action : MasterAction}
    (happens : step queuesCapacity (.masterServer action) process = .ok next) :
    ∃ masterServer masterListener,
      process.masterServer.step process.masterListener action =
          some (masterServer, masterListener) ∧
        next = { process with masterServer, masterListener } := by
  simp only [step] at happens
  split at happens
  · split at happens
    · rename_i masterServer masterListener moved
      cases happens
      exact ⟨masterServer, masterListener, moved, rfl⟩
    · cases happens
  · cases happens

theorem signalled_cases (happens : process.stopMasterServer = .ok next) :
    ∃ object, process.team.threads .masterServer = .object object ∧
      next = { process with
        masterListener := process.masterListener.stopListening
        signals := process.signals - 1 } := by
  unfold stopMasterServer at happens
  split at happens
  · cases happens
  · split at happens
    · cases happens
    · cases happens
    · rename_i object here
      cases happens
      exact ⟨object, here, rfl⟩

theorem hasEnded_of_step {event : MasterEvent config} {thread : MasterThread config}
    (happens : step queuesCapacity event process = .ok next)
    (ended : process.hasEnded thread = true) : next.hasEnded thread = true := by
  cases event with
  | proceed =>
      rcases proceed_cases happens with ⟨_, _, rfl⟩ | ⟨_, _, _, rfl⟩ |
        ⟨_, _, _, _, _, _, _, rfl⟩ <;> exact ended
  | cannotListen =>
      simp only [step] at happens
      split at happens <;> cases happens
      exact ended
  | client =>
      obtain ⟨_, _, _, rfl | rfl⟩ := accept_cases (.inl rfl) happens <;> exact ended
  | cannotAccept =>
      obtain ⟨_, _, _, rfl | rfl⟩ := accept_cases (.inr rfl) happens <;> exact ended
  | dequeue =>
      simp only [step] at happens
      split at happens <;> cases happens
      exact ended
  | ends other =>
      simp only [step] at happens
      split at happens <;> cases happens
      cases thread <;> first
        | exact ended
        | simp only [hasEnded, Function.update_apply]
          split
          · rfl
          · exact ended
  | signal =>
      cases happens
      exact ended
  | signalled =>
      obtain ⟨_, _, rfl⟩ := signalled_cases happens
      exact ended
  | masterServer action =>
      obtain ⟨masterServer, masterListener, moved, rfl⟩ := masterServer_cases happens
      cases thread with
      | masterServer =>
          -- it takes no step after its end
          have finished : process.masterServer = .ended := of_decide_eq_true ended
          rw [finished] at moved
          cases moved
      | _ => exact ended

theorem Sound.after_step {event : MasterEvent config} (sound : Sound queuesCapacity process done)
    (happens : step queuesCapacity event process = .ok next) :
    ∃ done, Sound queuesCapacity next done := by
  have joined : ∀ statement ∈ done, ∀ thread, awaited statement = some thread →
      next.hasEnded thread = true :=
    fun statement member thread waits =>
      hasEnded_of_step happens (sound.joined statement member thread waits)
  have position := sound.position
  cases event with
  | proceed =>
      rcases proceed_cases happens with ⟨rest, here, rfl⟩ | ⟨rest, here, stopped, rfl⟩ |
        ⟨statement, rest, team, sockets, here, result, free, rfl⟩
      · rw [here] at position
        obtain ⟨rfl, -, rfl⟩ := position.of_listenForConnections
        have whole : [] ++ HttpServer.buildMaster config queuesCapacity =
            HttpServer.buildMaster config queuesCapacity ++
              List.replicate 0 (.enqueue .socketsQueue) :=
          (List.append_nil _).symm
        exact ⟨[], .build (by simp) whole, sound.executed, joined⟩
      · rw [here] at position
        exact ⟨done, position.leave, sound.executed, joined⟩
      · rw [here] at position
        rcases position.of_statement with ⟨-, rfl, stopping⟩ | ⟨-, position, present⟩
        · -- the first statement of `stopServer` fails
          rw [failed_of_stopping sound.executed stopping] at result
          cases result
        refine ⟨done ++ [statement], position, ?_, ?_⟩
        · rw [execute_append sound.executed, execute_cons result, execute_nil]
        · intro other member thread waits
          rcases List.mem_append.mp member with before | last
          · exact joined other before thread waits
          · cases List.mem_singleton.mp last
            have object := present thread waits process.team sound.executed
            have finished : process.hasEnded thread = true :=
              hasEnded_of_free waits object free
            exact finished
  | cannotListen =>
      simp only [step] at happens
      split at happens <;> cases happens
      rename_i rest here
      rw [here] at position
      obtain ⟨rfl, unopened, rfl⟩ := position.of_listenForConnections
      refine ⟨[], ?_, sound.executed, joined⟩
      rw [unopened]
      exact .failed
  | client =>
      obtain ⟨rest, here, _, rfl | rfl⟩ := accept_cases (.inl rfl) happens
      · exact ⟨done, (here ▸ position).client, sound.executed, joined⟩
      · exact ⟨done, (here ▸ position).leave, sound.executed, joined⟩
  | cannotAccept =>
      obtain ⟨rest, here, _, rfl | rfl⟩ := accept_cases (.inr rfl) happens
      · exact ⟨done, (here ▸ position).client, sound.executed, joined⟩
      · exact ⟨done, (here ▸ position).leave, sound.executed, joined⟩
  | dequeue =>
      simp only [step] at happens
      split at happens <;> cases happens
      exact ⟨done, position, sound.executed, joined⟩
  | ends other =>
      simp only [step] at happens
      split at happens <;> cases happens
      exact ⟨done, position, sound.executed, joined⟩
  | signal =>
      cases happens
      exact ⟨done, position.stopListening, sound.executed, joined⟩
  | signalled =>
      obtain ⟨_, _, rfl⟩ := signalled_cases happens
      exact ⟨done, position, sound.executed, joined⟩
  | masterServer action =>
      obtain ⟨_, _, _, rfl⟩ := masterServer_cases happens
      exact ⟨done, position, sound.executed, joined⟩

end Steps

end MasterProcess

end Concurrente.WebServer
